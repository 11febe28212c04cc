import Mathlib

/-! Renamings: a list of pairs, each side without repetition, extends to a permutation
that moves nothing else. -/

namespace Starring.Foundation
open List

theorem exists_perm_of_pairs {α : Type} [DecidableEq α] (pairs : List (α × α)) (sources : (pairs.map Prod.fst).Nodup)
    (images : (pairs.map Prod.snd).Nodup) : ∃ perm : Equiv.Perm α, (∀ pair ∈ pairs, perm pair.1 = pair.2) ∧
      ∀ other, other ∉ pairs.map Prod.fst → other ∉ pairs.map Prod.snd → perm other = other := by
  induction pairs with
  | nil => exact ⟨1, fun _ mem => (not_mem_nil mem).elim, fun _ _ _ => rfl⟩
  | cons pair pairs ih =>
    obtain ⟨source, image⟩ := pair
    obtain ⟨newSource, oldSources⟩ := nodup_cons.mp sources
    obtain ⟨newImage, oldImages⟩ := nodup_cons.mp images
    obtain ⟨perm, maps, fixes⟩ := ih oldSources oldImages
    refine ⟨Equiv.swap (perm source) image * perm, fun pair mem => ?_, fun other notSource notImage => ?_⟩
    · obtain rfl | old := mem_cons.mp mem
      · exact Equiv.swap_apply_left _ _
      · have differs : pair.1 ≠ source := by
          rintro rfl
          exact newSource (mem_map.mpr ⟨pair, old, rfl⟩)
        have moved : perm pair.1 ≠ perm source := fun same => differs (perm.injective same)
        rw [maps pair old] at moved
        rw [Equiv.Perm.mul_apply, maps pair old]
        refine Equiv.swap_apply_of_ne_of_ne moved ?_
        rintro rfl
        exact newImage (mem_map.mpr ⟨pair, old, rfl⟩)
    · obtain ⟨notHead, notSources⟩ := not_or.mp (mt mem_cons.mpr notSource)
      obtain ⟨notHeadImage, notImages⟩ := not_or.mp (mt mem_cons.mpr notImage)
      have fixed := fixes other notSources notImages
      rw [Equiv.Perm.mul_apply, fixed]
      refine Equiv.swap_apply_of_ne_of_ne (fun same => notHead ?_) notHeadImage
      exact perm.injective (fixed.trans same)

/-- The ids of some rows can be renamed to those of others. -/
theorem exists_perm_of_zip {ρ κ ι : Type} [DecidableEq ι] {idOf : ρ → ι} {newOf : κ → ι} {olds : List ρ} {news : List κ}
    (lengths : olds.length = news.length) (distinct : (olds.map idOf).Nodup) (distinctNew : (news.map newOf).Nodup) :
    ∃ perm : Equiv.Perm ι, (∀ old new, (old, new) ∈ olds.zip news → perm (idOf old) = newOf new) ∧
      ∀ id, id ∉ olds.map idOf → id ∉ news.map newOf → perm id = id := by
  let pairs := (olds.zip news).map fun pair => (idOf pair.1, newOf pair.2)
  have sources : pairs.map Prod.fst = olds.map idOf := by
    rw [← map_fst_zip lengths.le, map_map, map_map]
    rfl
  have images : pairs.map Prod.snd = news.map newOf := by
    rw [← map_snd_zip lengths.ge, map_map, map_map]
    rfl
  obtain ⟨perm, maps, fixes⟩ := exists_perm_of_pairs pairs (sources ▸ distinct) (images ▸ distinctNew)
  refine ⟨perm, fun old new mem => maps (idOf old, newOf new) (mem_map.mpr ⟨(old, new), mem, rfl⟩), fun id => ?_⟩
  rw [← sources, ← images]
  exact fixes id

end Starring.Foundation
