import BufferedChannels.Simulation.Kernel

/-!
# Proofs/Bounds — the simulated kernel moves no more than was asked for

Whatever a descriptor stands for, a read of the simulated kernel brings **at most the bytes asked
for** and a write takes at most the bytes given.
-/

namespace BufferedChannels.Simulation.Kernel

/-- **A call that succeeds** did what it does, on some file and behind what the script said. -/
theorem exists_of_onDescriptor_ok {α : Type} {k k' : Kernel} {fd : Int} {kind : CallKind}
    {act : Kernel → OpenFile → Body → Option Nat → Except Errno α × Kernel} {a : α}
    (h : k.onDescriptor fd kind act = (.ok a, k')) :
    ∃ k₁ file body max?, act k₁ file body max? = (.ok a, k') := by
  unfold onDescriptor at h
  split at h
  · cases h
  dsimp only at h
  split at h
  · cases h
  split at h
  · cases h
  · exact ⟨_, _, _, _, h⟩

theorem eq_of_ok {α : Type} {k k' : Kernel} {a b : α}
    (h : ((.ok a, k) : Except Errno α × Kernel) = (.ok b, k')) : a = b :=
  Except.ok.inj (Prod.mk.inj h).1

theorem limited_le (len : Nat) (max? : Option Nat) : limited len max? ≤ len := Nat.min_le_left _ _

/-- A call moves at least one byte of those that it was asked for. -/
theorem limited_pos {len : Nat} {max? : Option Nat} (pos : 0 < len) (most : max? ≠ some 0) :
    0 < limited len max? := by
  cases max? with
  | none => exact Nat.lt_min.2 ⟨pos, pos⟩
  | some n => exact Nat.lt_min.2 ⟨pos, Nat.pos_of_ne_zero fun zero => most (congrArg _ zero)⟩

/-- **A read brings at most what was asked for.** -/
theorem length_read_le {k k' : Kernel} {fd : Int} {len : Nat} {bytes : Bytes}
    (h : k.read fd len = (.ok bytes, k')) : bytes.length ≤ len := by
  obtain ⟨k₁, file, body, max?, h⟩ := exists_of_onDescriptor_ok h
  have fits := limited_le len max?
  dsimp only at h
  split at h
  · cases h
  rcases body with contents | contents | stream
  · obtain rfl := eq_of_ok h
    rw [Contents.read_eq_slice, Bytes.slice]
    exact Nat.le_trans (List.length_take_le _ _) fits
  · cases h
  · dsimp only at h
    split at h
    · split at h
      · obtain rfl := eq_of_ok h
        exact Nat.zero_le len
      · cases h
    · obtain rfl := eq_of_ok h
      exact Nat.le_trans (List.length_take_le _ _) fits

/-- A write to a file or directory takes everything or fails. -/
theorem eq_of_writeAt_ok {k k' : Kernel} {fd : Int} {file : OpenFile} {contents : Contents}
    {rebuild : Contents → Body} {data : Bytes} {n : Nat}
    (h : k.writeAt fd file contents rebuild data = (.ok n, k')) : n = data.length := by
  unfold writeAt at h
  generalize (if file.flags.append then contents.size else file.offset) = offset at h
  dsimp only at h
  split at h
  · next empty =>
    rw [← eq_of_ok h, List.isEmpty_iff.1 empty]
    rfl
  split at h
  · cases h
  · exact (eq_of_ok h).symm

/-- **A write takes at most what was given.** -/
theorem write_le {k k' : Kernel} {fd : Int} {data : Bytes} {n : Nat}
    (h : k.write fd data = (.ok n, k')) : n ≤ data.length := by
  unfold write at h
  split at h
  · exact Nat.le_of_eq (eq_of_ok h).symm
  obtain ⟨k₁, file, body, max?, h⟩ := exists_of_onDescriptor_ok h
  have fits : (data.take (limited data.length max?)).length ≤ data.length := by
    rw [List.length_take]
    exact Nat.min_le_right _ _
  dsimp only at h
  split at h
  · cases h
  rcases body with contents | contents | stream
  · rw [eq_of_writeAt_ok h]
    exact fits
  · rw [eq_of_writeAt_ok h]
    exact fits
  · dsimp only at h
    split at h
    · cases h
    split at h
    · cases h
    · rw [← eq_of_ok h, List.length_take]
      exact Nat.le_trans (Nat.min_le_right _ _) fits

instance : Host.Bounded Kernel where
  length_read _ _ _ _ _ h := length_read_le h
  write_le _ _ _ _ _ h := write_le h

end BufferedChannels.Simulation.Kernel
