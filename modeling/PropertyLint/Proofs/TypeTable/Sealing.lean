import PropertyLint.Proofs.TypeTable.Instances
import PropertyLint.TypeTable.Sealed

/-! Sealing works out the supertypes of the first types of a table.
The table grows while the run goes through it. What has been worked out early stays right, because
later types change nothing about it, so that the sealed table answers as the finished table would.
-/

namespace PropertyLint.TypeTable

variable {table : TypeTable} {known cache : Array (List TypeId)} {id : TypeId}

/-- Where a run of sealing stands: it has worked out the supertypes of the first types. -/
structure Settled (table : TypeTable) (known : Array (List TypeId)) : Prop where
  sound : table.Sound
  within : known.size ≤ table.size
  right : ∀ id ids, known[id]? = some ids → table.HasSupertypes id ids

/-- One turn works out the supertypes of the next type; the earlier ones stay right. -/
theorem Settled.step (settled : table.Settled known) (more : known.size < table.size)
    : Interns table (table.supertypes known.size).2
      ∧ (table.supertypes known.size).2.Settled (known.push (table.supertypes known.size).1) := by
  obtain ⟨interns, has⟩ := settled.sound.supertypes more
  refine ⟨interns, interns.sound, ?_, ?_⟩
  · rw [Array.size_push]
    exact interns.grown.lt_size more
  · intro id ids found
    rw [Array.getElem?_push] at found
    split at found
    · rename_i last
      rw [last, ← Option.some.inj found]
      exact has
    · exact (settled.right id ids found).grow interns

/-- A run ends with the supertypes of as many types as the budget admits, by induction on it. -/
theorem Settled.run (settled : table.Settled known) (budget : Nat)
    : Interns table (table.sealWithin known budget).table
      ∧ (table.sealWithin known budget).table.Settled
          (table.sealWithin known budget).supertypes
      ∧ (table.sealWithin known budget).supertypes.size
        = min (table.sealWithin known budget).table.size (known.size + budget) := by
  induction budget generalizing table known with
  | zero => exact ⟨.refl settled.sound, settled, (Nat.min_eq_right settled.within).symm⟩
  | succ budget ih =>
      unfold sealWithin
      split
      · rename_i more
        obtain ⟨interns, next⟩ := settled.step more
        obtain ⟨later, done, size⟩ := ih next
        refine ⟨interns.trans later, done, ?_⟩
        rw [size, Array.size_push, Nat.add_right_comm, Nat.add_assoc]
      · rename_i finished
        have whole := Nat.le_antisymm settled.within (Nat.not_lt.mp finished)
        refine ⟨.refl settled.sound, settled, ?_⟩
        rw [whole]
        exact (Nat.min_eq_left (Nat.le_add_right _ _)).symm

/-- A run over a table that holds all the supertypes already finds them and changes nothing, by
induction on the budget. The run has come to `start` in the cache.
-/
theorem Settled.replay (settled : table.Settled cache) (budget start : Nat)
    (reached : start ≤ cache.size) (size : cache.size = min table.size (start + budget))
    : table.sealWithin (cache.take start) budget = ⟨table, cache⟩ := by
  have taken : (cache.take start).size = start := by simp [reached]
  induction budget generalizing start with
  | zero =>
      have whole : cache.size = start := by omega
      simp [sealWithin, ← whole]
  | succ budget ih =>
      unfold sealWithin
      rw [taken]
      split
      · rename_i more
        have inside : start < cache.size := by omega
        have has := settled.right start cache[start] (Array.getElem?_eq_getElem inside)
        rw [settled.sound.supertypes_known has]
        have pushed : (cache.take start).push cache[start] = cache.take (start + 1) := by
          simp [Array.take]
        dsimp only
        rw [pushed]
        exact ih (start + 1) inside (by omega) (by simp [Nat.min_eq_left inside])
      · rename_i finished
        have whole : cache.size = start := by omega
        simp [← whole]

-----------------------------------------------------------------------------------------
-- Whole runs
-----------------------------------------------------------------------------------------

variable (sound : table.Sound)

include sound

/-- Sealing a sound table only interns, and works out the supertypes of all types up to the
greatest number of them.
-/
theorem Sound.sealed
    : Interns table table.seal.table
      ∧ table.seal.table.Settled table.seal.supertypes
      ∧ table.seal.supertypes.size = min table.seal.table.size maxSealedTypes := by
  have start : table.Settled #[] := ⟨sound, Nat.zero_le _, by simp⟩
  simpa [TypeTable.seal] using start.run maxSealedTypes

/-- The sealed table answers for its first types as its own table does, which holds the answers
already.
-/
theorem Sound.supertypesOf_seal (inside : id < table.seal.table.size)
    (early : id < maxSealedTypes)
    : table.seal.table.supertypes id = (table.seal.supertypesOf id, table.seal.table) := by
  obtain ⟨_, settled, size⟩ := sound.sealed
  have found : id < table.seal.supertypes.size := size ▸ Nat.lt_min.mpr ⟨inside, early⟩
  have has := settled.right id _ (Array.getElem?_eq_getElem found)
  rw [settled.sound.supertypes_known has, SealedTable.supertypesOf, Array.getD_eq_getD_getElem?,
    Array.getElem?_eq_getElem found, Option.getD_some]

/-- The sealed table has no answer for other types. -/
theorem Sound.supertypesOf_seal_eq_nil
    (outside : ¬ (id < table.seal.table.size ∧ id < maxSealedTypes))
    : table.seal.supertypesOf id = [] := by
  obtain ⟨_, _, size⟩ := sound.sealed
  have missing : table.seal.supertypes.size ≤ id :=
    Nat.not_lt.mp fun inside => outside (Nat.lt_min.mp (size ▸ inside))
  simp [SealedTable.supertypesOf, missing]

/-- Sealing again changes nothing. -/
theorem Sound.seal_seal : table.seal.table.seal = table.seal := by
  obtain ⟨_, settled, size⟩ := sound.sealed
  have again := settled.replay maxSealedTypes 0 (Nat.zero_le _) (by simpa using size)
  simpa [TypeTable.seal] using again

end PropertyLint.TypeTable
