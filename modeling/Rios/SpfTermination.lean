import Rios.OspfV3Spf

/-!
# The search loops end

A vertex may be expanded more than once, also along links that cost nothing.
What every repetition uses up is the label of the vertex, its cost and its first
hop together: a vertex gets on the heap again with a smaller label only, and the
labels that can be derived from given advertisements are finitely many. Entries
that a smaller label has overtaken are popped without further effect.
-/

namespace Rios.SpfTermination
open Rios.Device Rios.Ospf Rios.LabelSearch

/-- The main loops of both calculations end, for any advertisements, any root and any heap; the labels of the
last state are those that `shortest_paths` goes on with. -/
theorem spf_loops_end (self_id : Ipv4Addr) (lsas : List Lsa) (advertisements : List OspfV3.OspfV3Lsa) :
    (∀ heap : MaxHeap (OspfSpf.Label × OspfSpf.Vertex) OspfSpf.entry_cmp,
      Ends (.Router self_id)
        (OspfSpf.candidates self_id (OspfSpf.routers_of (OspfSpf.live lsas)) (OspfSpf.networks_of (OspfSpf.live lsas)))
        heap ⟨0,none⟩) ∧
    ∀ heap : MaxHeap (OspfV3.Label × OspfV3.Vertex) OspfV3.entry_cmp,
      Ends (.Router self_id)
        (OspfV3.candidates self_id (OspfV3.routers_of (OspfV3.live advertisements))
          (OspfV3.networks_of (OspfV3.live advertisements)))
        heap ⟨0,none⟩ := by
  constructor
  · exact fun heap => search_ends _ _ heap _
  · exact fun heap => search_ends _ _ heap _

end Rios.SpfTermination
