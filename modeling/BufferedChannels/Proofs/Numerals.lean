import Mathlib
import BufferedChannels.Text.Numeral

/-!
# Proofs/Numerals — the texts that are read as numbers

A parser of numerals accepts exactly the texts of a grammar, and yields their values.  `Spells` says
which digit strings there are and what each is worth, `Around` which blanks may stand where.  A
number that is printed is read back, and leading zeros do not matter.
-/

namespace BufferedChannels.Text

/-! ## Blanks around -/

/-- **A text with blanks around** a core. -/
def Around (core cs : List Char) : Prop :=
  ∃ before after, (∀ c ∈ before ++ after, isBlank c = true) ∧ cs = before ++ core ++ after

/-- **Trimming cuts blanks off**, and nothing else. -/
theorem around_trim (cs : List Char) : Around (trim cs) cs := by
  refine ⟨cs.takeWhile isBlank, ((trimLeft cs).reverse.takeWhile isBlank).reverse, fun c mem => ?_,
    ?_⟩
  · rcases List.mem_append.1 mem with mem | mem
    · exact List.mem_takeWhile_imp mem
    · exact List.mem_takeWhile_imp (List.mem_reverse.1 mem)
  · rw [trim, trimRight, List.append_assoc, ← List.reverse_append,
      List.takeWhile_append_dropWhile, List.reverse_reverse, trimLeft,
      List.takeWhile_append_dropWhile]

/-- Without blanks there is nothing to drop. -/
theorem dropWhile_of_solid {cs : List Char} (solid : ∀ c ∈ cs, isBlank c = false) :
    cs.dropWhile isBlank = cs := by
  cases cs with
  | nil => rfl
  | cons c cs => exact List.dropWhile_cons_of_neg (by simp [solid c List.mem_cons_self])

/-- **A core without blanks** is what trimming leaves. -/
theorem trim_eq_iff {core cs : List Char} (solid : ∀ c ∈ core, isBlank c = false) :
    trim cs = core ↔ Around core cs := by
  refine ⟨fun trimmed => trimmed ▸ around_trim cs, ?_⟩
  rintro ⟨before, after, blank, rfl⟩
  have left : trimLeft (before ++ core ++ after) = trimLeft (core ++ after) := by
    rw [List.append_assoc]
    exact List.dropWhile_append_of_pos fun c mem => blank c (List.mem_append_left _ mem)
  have right : trimRight (core ++ after) = core := by
    rw [trimRight, List.reverse_append, List.dropWhile_append_of_pos fun c mem =>
      blank c (List.mem_append_right _ (List.mem_reverse.1 mem)), dropWhile_of_solid fun c mem =>
        solid c (List.mem_reverse.1 mem), List.reverse_reverse]
  rw [trim, left]
  cases core with
  | nil =>
    have none : trimLeft ([] ++ after) = [] :=
      List.dropWhile_eq_nil_iff.2 fun c mem => blank c (List.mem_append_right _ mem)
    rw [none]
    rfl
  | cons c core =>
    have kept : trimLeft (c :: core ++ after) = c :: core ++ after :=
      List.dropWhile_cons_of_neg (by simp [solid c List.mem_cons_self])
    rw [kept, right]

/-! ## Digits -/

/-- **A digit string**: one digit or more, the most significant first, and its value. -/
def Spells (base : Nat) (cs : List Char) (value : Nat) : Prop :=
  ∃ digits : List Nat, digits ≠ [] ∧ (∀ d ∈ digits, d < base) ∧
    cs = digits.map Nat.digitChar ∧ value = Nat.ofDigits base digits.reverse

/-- **The digits of a base** up to ten. -/
theorem digit?_eq_some_iff {base d : Nat} {c : Char} (small : base ≤ 10) :
    digit? base c = some d ↔ d < base ∧ c = Nat.digitChar d := by
  have bounds : '0' ≤ c ∧ c ≤ '9' ↔ 48 ≤ c.toNat ∧ c.toNat ≤ 57 := Iff.rfl
  have zero : '0'.toNat = 48 := rfl
  rw [digit?, Option.ite_none_right_eq_some, Option.some.injEq, ← and_assoc, bounds, zero]
  constructor
  · rintro ⟨⟨⟨low, high⟩, lt⟩, rfl⟩
    refine ⟨lt, Char.toNat_inj.1 ?_⟩
    rw [Nat.toNat_digitChar_of_lt_ten (by omega)]
    omega
  · rintro ⟨lt, rfl⟩
    rw [Nat.toNat_digitChar_of_lt_ten (by omega)]
    omega

/-- **Digits read after others** add to what was read, which their number shifts. -/
theorem digitsFrom?_eq_some_iff {base : Nat} (small : base ≤ 10) {acc value : Nat}
    {cs : List Char} : digitsFrom? base acc cs = some value ↔
      ∃ digits : List Nat, (∀ d ∈ digits, d < base) ∧ cs = digits.map Nat.digitChar ∧
        value = Nat.ofDigits base digits.reverse + base ^ digits.length * acc := by
  induction cs generalizing acc with
  | nil =>
    constructor
    · rintro ⟨⟩
      exact ⟨[], nofun, rfl, by simp⟩
    · rintro ⟨digits, -, none, rfl⟩
      obtain rfl := List.map_eq_nil_iff.1 none.symm
      simp [digitsFrom?]
  | cons c cs ih =>
    have shifted (d : Nat) (digits : List Nat) :
        Nat.ofDigits base (d :: digits).reverse + base ^ (d :: digits).length * acc =
          Nat.ofDigits base digits.reverse + base ^ digits.length * (acc * base + d) := by
      rw [Nat.ofDigits_reverse_cons, List.length_cons]
      ring
    rw [digitsFrom?, Option.bind_eq_some_iff]
    constructor
    · rintro ⟨d, digit, rest⟩
      obtain ⟨lt, rfl⟩ := (digit?_eq_some_iff small).1 digit
      obtain ⟨digits, lts, rfl, rfl⟩ := ih.1 rest
      exact ⟨d :: digits, List.forall_mem_cons.2 ⟨lt, lts⟩, rfl, (shifted d digits).symm⟩
    · rintro ⟨digits, lts, same, rfl⟩
      cases digits with
      | nil => cases same
      | cons d digits =>
        obtain ⟨rfl, rfl⟩ := List.cons.inj same
        obtain ⟨lt, lts⟩ := List.forall_mem_cons.1 lts
        exact ⟨d, (digit?_eq_some_iff small).2 ⟨lt, rfl⟩, ih.2 ⟨digits, lts, rfl, shifted d digits⟩⟩

/-- **A parser of digits** accepts exactly the digit strings and yields their values. -/
theorem digits?_eq_some_iff {base : Nat} (small : base ≤ 10) {cs : List Char} {value : Nat} :
    digits? base cs = some value ↔ Spells base cs value := by
  cases cs with
  | nil =>
    refine iff_of_false nofun ?_
    rintro ⟨digits, some, -, none, -⟩
    exact some (List.map_eq_nil_iff.1 none.symm)
  | cons c cs =>
    rw [digits?, digitsFrom?_eq_some_iff small, Spells]
    simp only [Nat.mul_zero, Nat.add_zero]
    refine exists_congr fun digits => (and_iff_right_of_imp ?_).symm
    rintro ⟨-, same, -⟩ rfl
    cases same

/-- A digit is no blank and no mark. -/
theorem digitChar_solid {d : Nat} (lt : d < 10) : isBlank (Nat.digitChar d) = false ∧
    Nat.digitChar d ≠ '+' ∧ Nat.digitChar d ≠ 'o' ∧ Nat.digitChar d ≠ '_' := by
  decide +revert

namespace Spells

variable {base value : Nat} {cs : List Char}

/-- There is no blank and no mark among digits. -/
theorem solid (small : base ≤ 10) (h : Spells base cs value) : ∀ c ∈ cs,
    isBlank c = false ∧ c ≠ '+' ∧ c ≠ 'o' ∧ c ≠ '_' := by
  obtain ⟨digits, -, lts, rfl, -⟩ := h
  exact List.forall_mem_map.2 fun d mem => digitChar_solid ((lts d mem).trans_le small)

/-- Nor is there any with a sign before the digits. -/
theorem signed_solid (small : base ≤ 10) (h : Spells base cs value) {sign : List Char}
    (signs : sign ∈ [[], ['+']]) :
    ∀ c ∈ sign ++ cs, isBlank c = false ∧ c ≠ 'o' ∧ c ≠ '_' := by
  refine List.forall_mem_append.2 ⟨?_, fun c mem => ?_⟩
  · rcases List.mem_pair.1 signs with rfl | rfl
    · exact List.forall_mem_nil _
    · exact List.forall_mem_singleton.2 ⟨rfl, by decide, by decide⟩
  · obtain ⟨blank, -, others⟩ := h.solid small c mem
    exact ⟨blank, others⟩

/-- **One digit more** shifts the others. -/
theorem concat (h : Spells base cs value) {d : Nat} (lt : d < base) :
    Spells base (cs ++ [Nat.digitChar d]) (base * value + d) := by
  obtain ⟨digits, -, lts, rfl, rfl⟩ := h
  refine ⟨digits ++ [d], by simp, ?_, by simp, ?_⟩
  · exact List.forall_mem_append.2 ⟨lts, List.forall_mem_singleton.2 lt⟩
  · rw [List.reverse_concat, Nat.ofDigits_cons, Nat.add_comm]

/-- **Leading zeros** do not matter. -/
theorem zeros (h : Spells base cs value) (count : Nat) :
    Spells base (List.replicate count '0' ++ cs) value := by
  obtain ⟨digits, some, lts, rfl, rfl⟩ := h
  obtain ⟨d, mem⟩ := List.exists_mem_of_ne_nil digits some
  have positive : 0 < base := Nat.zero_lt_of_lt (lts d mem)
  refine ⟨List.replicate count 0 ++ digits, by simp [some], ?_, by simp, ?_⟩
  · exact List.forall_mem_append.2 ⟨fun _ zero => List.eq_of_mem_replicate zero ▸ positive, lts⟩
  · rw [List.reverse_append, List.reverse_replicate, Nat.ofDigits_append_replicate_zero]

end Spells

/-- **A number that is printed** is spelled by its digits. -/
theorem spells_digitsOf {base : Nat} (two : 2 ≤ base) (n : Nat) :
    Spells base (digitsOf base n) n := by
  induction n using Nat.strongRecOn with
  | ind n ih =>
    rcases Nat.lt_or_ge n base with lt | ge
    · rw [digitsOf, Nat.toDigits_of_lt_base lt]
      exact ⟨[n], List.cons_ne_nil n [], List.forall_mem_singleton.2 lt, rfl,
        Nat.ofDigits_singleton.symm⟩
    · have shorter := (ih (n / base) (Nat.div_lt_self (by omega) two)).concat
        (Nat.mod_lt n (by omega))
      rwa [Nat.div_add_mod, digitsOf, ← Nat.toDigits_of_base_le two ge] at shorter

/-! ## Words without sign -/

/-- **A word without sign** is a digit string whose value has so many bits, perhaps after a `+`. -/
theorem unsigned?_eq_some_iff {base bits value : Nat} (small : base ≤ 10) {cs : List Char} :
    unsigned? base bits cs = some value ↔ value < 2 ^ bits ∧
      ∃ sign ∈ [[], ['+']], ∃ digits, cs = sign ++ digits ∧ Spells base digits value := by
  have bound : value < 1 <<< bits ↔ value < 2 ^ bits := by rw [Nat.one_shiftLeft]
  unfold unsigned?
  rw [Option.filter_eq_some_iff, decide_eq_true_iff, bound, and_comm]
  refine and_congr_right fun _ => ?_
  constructor
  · intro read
    split at read
    · next rest => exact ⟨['+'], by simp, rest, rfl, (digits?_eq_some_iff small).1 read⟩
    · exact ⟨[], by simp, cs, rfl, (digits?_eq_some_iff small).1 read⟩
  · rintro ⟨sign, mem, digits, rfl, spells⟩
    have read := (digits?_eq_some_iff small).2 spells
    rcases List.mem_pair.1 mem with rfl | rfl
    · rw [List.nil_append]
      split
      · exact absurd rfl (spells.solid small _ List.mem_cons_self).2.1
      · exact read
    · exact read

end BufferedChannels.Text
