import Mathlib.Data.List.Sort
import TableGateway.Text.Bytes

-- The laws of names in order. The order of bytes tells any two names apart, and
-- a list put in order holds each of its names once, each before the greater ones.

namespace TableGateway.Text

/-! ## The order of bytes -/

/-- No two texts have the same bytes. -/
theorem bytes_inj {s t : String} : bytes s = bytes t ↔ s = t := by
  have h : ∀ u : String, (bytes u).toByteArray = u.toByteArray := fun u => String.utf8Encode_toList
  rw [← List.toByteArray_inj, h, h, String.toByteArray_inj]

theorem Precedes.trans {s t u : String} (h : Precedes s t) (h' : Precedes t u) : Precedes s u :=
  List.lt_trans h h'

instance : Std.Irrefl Precedes :=
  ⟨fun _ h => List.lt_irrefl _ h⟩

instance : Std.Antisymm Precedes :=
  ⟨fun _ _ h h' => absurd (h.trans h') (List.lt_irrefl _)⟩

/-- Of two texts one comes first. -/
theorem precedes_of_not {s t : String} (ne : s ≠ t) (h : ¬ Precedes s t) : Precedes t s := by
  have hle : bytes t ≤ bytes s := List.not_lt.mp h
  rcases List.le_iff_lt_or_eq.mp hle with hlt | heq
  · exact hlt
  · exact absurd (bytes_inj.mp heq).symm ne

/-! ## Lists in order -/

theorem insertOnce_pairwise {s : String} {texts : List String} (h : texts.Pairwise Precedes) :
    (insertOnce s texts).Pairwise Precedes := by
  induction texts with
  | nil => exact List.pairwise_singleton _ _
  | cons t rest ih =>
    obtain ⟨hfirst, hrest⟩ := List.pairwise_cons.mp h
    unfold insertOnce
    split
    · exact h
    · rename_i ne
      split
      · rename_i hst
        refine List.pairwise_cons.mpr ⟨?_, h⟩
        intro u hu
        rcases List.mem_cons.mp hu with rfl | hu
        · exact hst
        · exact hst.trans (hfirst u hu)
      · rename_i hst
        refine List.pairwise_cons.mpr ⟨?_, ih hrest⟩
        intro u hu
        rcases mem_insertOnce.mp hu with rfl | hu
        · exact precedes_of_not ne hst
        · exact hfirst u hu

/-- A list put in order rises from name to name. -/
theorem inOrder_pairwise (texts : List String) : (inOrder texts).Pairwise Precedes := by
  induction texts with
  | nil => exact .nil
  | cons t rest ih => exact insertOnce_pairwise ih

theorem inOrder_nodup (texts : List String) : (inOrder texts).Nodup :=
  (inOrder_pairwise texts).imp fun {s t} (h : Precedes s t) (heq : s = t) =>
    List.lt_irrefl (bytes s) (heq ▸ h)

/-- Lists with the same names are one list once they are put in order. -/
theorem inOrder_congr {texts texts' : List String} (h : ∀ s, s ∈ texts ↔ s ∈ texts') :
    inOrder texts = inOrder texts' := by
  have hsame : ∀ s, s ∈ inOrder texts ↔ s ∈ inOrder texts' := fun s => by
    rw [mem_inOrder, mem_inOrder, h s]
  exact (inOrder_pairwise texts).eq_of_mem_iff (inOrder_pairwise texts') hsame

end TableGateway.Text
