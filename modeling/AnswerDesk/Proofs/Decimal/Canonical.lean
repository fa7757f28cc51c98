import AnswerDesk.Proofs.Decimal.Cut

/-!
# `AnswerDesk.Proofs.Decimal.Canonical`: one text for each number

A numeral may have zeros that mean nothing, in front of the whole part and at the end of the
fraction. The text of a number never has any.

* `IsCanonical`: the form of the texts that are written.
* `canonicalNumeral`: a numeral without the zeros that mean nothing.
* `isCanonical_writeChars`: whatever is written is canonical.
* `writeChars_of_denotes`: what a numeral denotes is written as that numeral without superfluous
  zeros, whatever number of digits is asked for.
* `eq_of_writeChars_eq`: numbers whose expansions end have different texts.

Both the text of a number and a numeral lay out the digits of a scaled number around a point
(`unsignedText_of_digits`). Zeros in front go because a whole number is written without any
(`toDigits_digitsValue`), zeros at the end because the writer drops them.
-/

set_option autoImplicit false

namespace AnswerDesk.Decimal

open Text (takeWhile_run dropWhile_run)

/-- A whole part without superfluous zeros: zero, or digits that do not begin with zero. -/
inductive IsWhole : List Char → Prop
  | zero : IsWhole ['0']
  | digits {c : Char} {cs : List Char} (hc : c ≠ '0') (hcs : IsDigits (c :: cs)) : IsWhole (c :: cs)

/-- A fraction without superfluous zeros: digits that do not end in zero. -/
structure IsFraction (fs : List Char) : Prop where
  digits : IsDigits fs
  last : fs.getLast? ≠ some '0'

/-- A numeral without superfluous zeros. -/
inductive IsCanonicalNumeral : List Char → Prop
  | whole {ds : List Char} (hds : IsWhole ds) : IsCanonicalNumeral ds
  | fraction {ds fs : List Char} (hds : IsWhole ds) (hfs : IsFraction fs) :
      IsCanonicalNumeral (ds ++ '.' :: fs)

/-- A numeral without superfluous zeros, with a minus sign in front unless it is zero. -/
inductive IsCanonical : List Char → Prop
  | unsigned {run : List Char} (h : IsCanonicalNumeral run) : IsCanonical run
  | negative {run : List Char} (h : IsCanonicalNumeral run) (hne : run ≠ ['0']) :
      IsCanonical ('-' :: run)

/-- Digits without the zeros in front. A digit stays in any case. -/
def dropLeadingZeros : List Char → List Char
  | '0' :: c :: cs => dropLeadingZeros (c :: cs)
  | cs => cs

/-- A numeral without the zeros in front of its whole part and those at the end of its fraction. The
point goes with the last digit of the fraction. -/
def canonicalNumeral (run : List Char) : List Char :=
  let whole := dropLeadingZeros (run.takeWhile Char.isDigit)
  let fraction := (run.dropWhile Char.isDigit).tail.rdropWhile (· == '0')
  if fraction = [] then whole else whole ++ '.' :: fraction

/-! ### Zeros in front -/

/-- A whole part is left of any digits. -/
theorem isWhole_dropLeadingZeros {ds : List Char} (hds : IsDigits ds) :
    IsWhole (dropLeadingZeros ds) := by
  fun_induction dropLeadingZeros ds with
  | case1 c cs ih => exact ih ⟨by simp, fun d hd => hds.isDigit d (by simp [hd])⟩
  | case2 ds hne =>
      obtain ⟨c, cs, rfl⟩ := List.exists_cons_of_ne_nil hds.ne_nil
      by_cases hc : c = '0'
      · -- A zero that is not dropped has nothing behind it.
        subst hc
        cases cs with
        | nil => exact .zero
        | cons d cs => exact absurd rfl (hne d cs)
      · exact .digits hc hds

/-- A digit is the character of a number below ten. -/
theorem exists_digitChar_eq {c : Char} (hc : c.isDigit = true) : ∃ d < 10, d.digitChar = c := by
  have hrange : 48 ≤ c.toNat ∧ c.toNat ≤ 57 := Char.isDigit_iff_toNat.mp hc
  refine ⟨c.toNat - 48, by omega, Char.toNat_inj.mp ?_⟩
  rw [Nat.toNat_digitChar_of_lt_ten (by omega)]
  omega

/-- Digits behind a number that is not zero are written behind its digits. Induction on the digits,
each of which makes the number in front one digit longer. Zero is left out because it has a digit
of its own, which goes when another stands behind it. -/
theorem toDigits_ofDigitChars {n : Nat} (hn : 0 < n) {cs : List Char}
    (hcs : ∀ c ∈ cs, c.isDigit = true) :
    Nat.toDigits 10 (Nat.ofDigitChars 10 cs n) = Nat.toDigits 10 n ++ cs := by
  induction cs generalizing n with
  | nil => simp
  | cons c cs ih =>
      obtain ⟨d, hd, rfl⟩ := exists_digitChar_eq (hcs c (by simp))
      have hone : Nat.toDigits 10 (10 * n + d) = Nat.toDigits 10 n ++ [d.digitChar] := by
        rw [← Nat.toDigits_append_toDigits (by decide) hn hd, Nat.toDigits_of_lt_base hd]
      rw [Nat.ofDigitChars_cons_digitChar_of_lt_ten hd,
        ih (by omega) fun x hx => hcs x (by simp [hx]), hone, List.append_assoc,
        List.singleton_append]

/-- **Digits are written without the zeros in front.** -/
theorem toDigits_digitsValue {ds : List Char} (hds : IsDigits ds) :
    Nat.toDigits 10 (digitsValue ds) = dropLeadingZeros ds := by
  fun_induction dropLeadingZeros ds with
  | case1 c cs ih =>
      have hzero : digitsValue ('0' :: c :: cs) = digitsValue (c :: cs) := by
        simp [digitsValue, Nat.ofDigitChars_cons]
      rw [hzero]
      exact ih ⟨by simp, fun d hd => hds.isDigit d (by simp [hd])⟩
  | case2 ds hne =>
      obtain ⟨c, cs, rfl⟩ := List.exists_cons_of_ne_nil hds.ne_nil
      obtain ⟨d, hd, rfl⟩ := exists_digitChar_eq (hds.isDigit c (by simp))
      have hvalue : digitsValue (d.digitChar :: cs) = Nat.ofDigitChars 10 cs d := by
        rw [digitsValue, Nat.ofDigitChars_cons_digitChar_of_lt_ten hd, Nat.mul_zero, Nat.zero_add]
      rw [hvalue]
      by_cases hd0 : d = 0
      · -- Zero is written if no digit stands behind it.
        subst hd0
        cases cs with
        | nil => rfl
        | cons e cs => exact absurd rfl (hne e cs)
      · rw [toDigits_ofDigitChars (by omega) fun x hx => hds.isDigit x (by simp [hx]),
          Nat.toDigits_of_lt_base hd]
        rfl

/-- A whole number is written without superfluous zeros. -/
theorem isWhole_toDigits (n : Nat) : IsWhole (Nat.toDigits 10 n) := by
  have hdigits := isDigits_toDigits n
  have hself := toDigits_digitsValue hdigits
  rw [digitsValue_toDigits] at hself
  rw [hself]
  exact isWhole_dropLeadingZeros hdigits

/-! ### Zeros at the end -/

/-- The writer drops zeros as the library does. -/
theorem dropFinalZeros_eq_rdropWhile (fs : List Char) :
    dropFinalZeros fs = fs.rdropWhile (· == '0') := rfl

/-- What is left of digits is a fraction, unless nothing is left. -/
theorem isFraction_dropFinalZeros {fs : List Char} (hfs : ∀ c ∈ fs, c.isDigit = true)
    (hne : dropFinalZeros fs ≠ []) : IsFraction (dropFinalZeros fs) := by
  rw [dropFinalZeros_eq_rdropWhile] at hne ⊢
  refine ⟨⟨hne, fun c hc => hfs c ((List.rdropWhile_prefix _ fs).mem hc)⟩, ?_⟩
  have hlast := List.rdropWhile_last_not (p := (· == '0')) fs hne
  rw [List.getLast?_eq_getLast_of_ne_nil hne]
  simpa using hlast

/-- The last digits of a number that ends in these digits. Induction on their end, where the writer
starts. -/
theorem lastDigits_digitsValue (ds : List Char) {fs : List Char}
    (hfs : ∀ c ∈ fs, c.isDigit = true) :
    lastDigits fs.length (digitsValue (ds ++ fs)) [] = fs := by
  induction fs using List.reverseRecOn with
  | nil => rfl
  | append_singleton fs c ih =>
      obtain ⟨d, hd, rfl⟩ := exists_digitChar_eq (hfs c (by simp))
      have hvalue : digitsValue (ds ++ (fs ++ [d.digitChar])) = digitsValue (ds ++ fs) * 10 + d := by
        rw [← List.append_assoc, digitsValue_append, digitsValue_digitChar hd]
        rfl
      have hdiv : (digitsValue (ds ++ fs) * 10 + d) / 10 = digitsValue (ds ++ fs) := by omega
      have hmod : (digitsValue (ds ++ fs) * 10 + d) % 10 = d := by omega
      rw [List.length_append, List.length_singleton, hvalue, lastDigits_succ, hdiv, hmod,
        ih fun x hx => hfs x (by simp [hx])]

/-! ### The text of a scaled number -/

/-- The text of a scaled number has no superfluous zeros. -/
theorem isCanonicalNumeral_unsignedText (n scaled : Nat) :
    IsCanonicalNumeral (unsignedText n scaled) := by
  unfold unsignedText
  simp only
  split
  · exact .whole (isWhole_toDigits _)
  · rename_i hne
    exact .fraction (isWhole_toDigits _)
      (isFraction_dropFinalZeros (fun c hc => isDigit_of_mem_lastDigits hc) hne)

/-- The digits of a scaled number are laid out around the point as they are, without superfluous
zeros. -/
theorem unsignedText_of_digits {ds fs : List Char} (hds : IsDigits ds)
    (hfs : ∀ c ∈ fs, c.isDigit = true) :
    unsignedText fs.length (digitsValue (ds ++ fs)) =
      if fs.rdropWhile (· == '0') = [] then dropLeadingZeros ds
      else dropLeadingZeros ds ++ '.' :: fs.rdropWhile (· == '0') := by
  -- The digits behind the point are worth less than one in front of it.
  have hwhole : digitsValue (ds ++ fs) / Nat.pow 10 fs.length = digitsValue ds := by
    rw [Nat.pow_eq, digitsValue_append, Nat.mul_comm, Nat.mul_add_div (by positivity),
      Nat.div_eq_of_lt (digitsValue_lt hfs), Nat.add_zero]
  unfold unsignedText
  rw [hwhole, lastDigits_digitsValue ds hfs, toDigits_digitsValue hds, dropFinalZeros_eq_rdropWhile]
  cases fs.rdropWhile (· == '0') <;> simp

/-! ### What is written -/

/-- **Whatever is written is canonical.** -/
theorem isCanonical_writeChars (r : Rat) (digits : Nat) : IsCanonical (writeChars r digits) := by
  have htext := isCanonicalNumeral_unsignedText (places r digits) (scaled r digits)
  rw [writeChars_eq]
  split
  · rename_i h
    exact .negative htext h.2
  · exact .unsigned htext

/-- A scaled number that is divided by its scale is written as its digits, whatever number of
digits is asked for. -/
theorem writeChars_div (n s digits : Nat) :
    writeChars ((s : Rat) / 10 ^ n) digits = unsignedText n s := by
  have hdenotes := denotes_unsignedText n s
  have hnum : ¬ ((s : Rat) / 10 ^ n).num < 0 := not_lt.mpr (Rat.num_nonneg.mpr hdenotes.nonneg)
  rw [writeChars_eq, if_neg (by simp [hnum])]
  -- The writer has a scale of its own, but the quotient is the same.
  refine unsignedText_eq_of_div_eq ?_
  rw [scaled_div_of_terminating hdenotes.terminating, abs_of_nonneg hdenotes.nonneg]

/-- **What a numeral denotes is written as the numeral**, without superfluous zeros. -/
theorem writeChars_of_denotes {run : List Char} {v : Rat} (h : Denotes run v) (digits : Nat) :
    writeChars v digits = canonicalNumeral run := by
  cases h with
  | whole hds =>
      -- Without a point the whole numeral is digits, and there are no places.
      have htake : run.takeWhile Char.isDigit = run := List.takeWhile_eq_self_iff.mpr hds.isDigit
      have hdrop : run.dropWhile Char.isDigit = [] := List.dropWhile_eq_nil_iff.mpr hds.isDigit
      have hnil : ∀ c ∈ ([] : List Char), c.isDigit = true := by simp
      have htext := unsignedText_of_digits hds hnil
      have hwrite := writeChars_div 0 (digitsValue run) digits
      rw [pow_zero, div_one] at hwrite
      rw [hwrite, canonicalNumeral, htake, hdrop]
      simpa using htext
  | @fraction ds fs hds hfs =>
      -- The point ends the digits in front of it, and there are as many places as digits behind it.
      have hpoint : ∀ c ∈ ('.' :: fs).head?, c.isDigit = false := by simp
      have htext := unsignedText_of_digits hds hfs.isDigit
      have hwrite := writeChars_div fs.length (digitsValue (ds ++ fs)) digits
      rw [← mkRat_digitsValue_append, Rat.mkRat_eq_div]
      push_cast
      rw [hwrite, htext, canonicalNumeral, takeWhile_run hds.isDigit hpoint,
        dropWhile_run hds.isDigit hpoint]
      rfl

/-- One zero stays of a whole part of zeros, and a point goes with a fraction of zeros. -/
example : canonicalNumeral "00.00".toList = "0".toList ∧
    canonicalNumeral "0100.010".toList = "100.01".toList := by
  decide

/-- **Numbers whose expansions end have different texts**, whatever numbers of digits are asked
for. -/
theorem eq_of_writeChars_eq {r s : Rat} (hr : Terminating r) (hs : Terminating s)
    {digits digits' : Nat} (h : writeChars r digits = writeChars s digits') : r = s := by
  have hdenotes := denotesSigned_writeChars r digits
  have hdenotes' := denotesSigned_writeChars s digits'
  rw [cut_of_terminating hr] at hdenotes
  rw [cut_of_terminating hs, ← h] at hdenotes'
  exact hdenotes.unique hdenotes'

end AnswerDesk.Decimal
