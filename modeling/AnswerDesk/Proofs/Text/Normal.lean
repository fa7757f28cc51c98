import AnswerDesk.Proofs.Text.Run
import AnswerDesk.Text.Blank
import AnswerDesk.Text.Lowercase
import Mathlib.Data.List.Basic
import Mathlib.Data.List.DropRight

/-!
# `AnswerDesk.Proofs.Text.Normal`: texts that are trimmed and in lowercase

A question is trimmed, and put in lowercase to be looked up. The keys of a table went
through the same when the table was read, and a question may be trimmed more than once on
its way. So trimming has to leave alone what is trimmed already, lowercase what is in
lowercase already, and the two must not get in each other's way.

* `IsTrimmed`: no blank at either end. Trimming makes texts such, and keeps those that are
  such (`isTrimmed_trim`, `trim_of_isTrimmed`).
* `IsLower`: a character that is its own lowercase, wherever it stands. Lowercase consists
  of such characters, and keeps texts that do (`isLower_of_mem_lowercase`,
  `lowercase_of_forall`).
* `isTrimmed_lowercase`: lowercase makes no blank and no text empty, so it leaves no blank
  at an end where there was none.
* `mem_of_mem_lowercase`: lowercase makes none of the characters in front of the small letters
  either, which are those that a table is written with.

That the lowercase of a character is in lowercase, and not blank, is a property of the
table `lowerRuns`. It is checked on pairs of runs, not on characters: the lowercase of one
run has to keep off every run (`CaseRun.isApart`) and some places besides
(`CaseRun.keepsOff`).
-/

set_option autoImplicit false

namespace AnswerDesk.Text

/-! ### Trimmed texts -/

/-- No blank stands at either end. -/
structure IsTrimmed (cs : List Char) : Prop where
  head : ∀ c ∈ cs.head?, isBlank c = false
  last : ∀ c ∈ cs.getLast?, isBlank c = false

/-- A trimmed text stays as it is. -/
theorem trim_of_isTrimmed {cs : List Char} (h : IsTrimmed cs) : trim cs = cs := by
  have hend : cs.reverse.dropWhile isBlank = cs.reverse :=
    dropWhile_eq_self (by rw [List.head?_reverse]; exact h.last)
  rw [trim, trimStart, dropWhile_eq_self h.head, trimEnd, hend, List.reverse_reverse]

/-- Taking away the blanks at the end takes away nothing else. -/
theorem trimEnd_prefix (cs : List Char) : trimEnd cs <+: cs :=
  List.rdropWhile_prefix isBlank cs

/-- Trimming trims. -/
theorem isTrimmed_trim (cs : List Char) : IsTrimmed (trim cs) where
  head c hc := by
    -- The text begins as it did before its end was trimmed.
    obtain ⟨rest, hrest⟩ := trimEnd_prefix (trimStart cs)
    refine head?_dropWhile_run isBlank cs c ?_
    show c ∈ (trimStart cs).head?
    rw [← hrest, List.head?_append]
    simp [show (trimEnd (trimStart cs)).head? = some c from hc]
  last c hc := by
    rw [trim, trimEnd, List.getLast?_reverse] at hc
    exact head?_dropWhile_run isBlank _ c hc

theorem trim_trim (cs : List Char) : trim (trim cs) = trim cs :=
  trim_of_isTrimmed (isTrimmed_trim cs)

/-- Trimming takes away blanks only. -/
theorem exists_eq_append_trim (cs : List Char) :
    ∃ front back, cs = front ++ trim cs ++ back ∧
      (∀ c ∈ front, isBlank c = true) ∧ ∀ c ∈ back, isBlank c = true := by
  have hfront : cs = cs.takeWhile isBlank ++ trimStart cs :=
    List.takeWhile_append_dropWhile.symm
  have hback : trimStart cs = trim cs ++ (trimStart cs).rtakeWhile isBlank :=
    List.rdropWhile_append_rtakeWhile.symm
  refine ⟨cs.takeWhile isBlank, (trimStart cs).rtakeWhile isBlank, ?_, ?_, ?_⟩
  · rw [List.append_assoc, ← hback, ← hfront]
  · exact fun c hc => List.mem_takeWhile_imp hc
  · exact fun c hc => List.mem_rtakeWhile_imp hc

/-- Trimming adds nothing. -/
theorem mem_of_mem_trim {cs : List Char} {c : Char} (hc : c ∈ trim cs) : c ∈ cs := by
  obtain ⟨front, back, hsplit, -, -⟩ := exists_eq_append_trim cs
  rw [hsplit]
  exact List.mem_append_left back (List.mem_append_right front hc)

/-- Blanks at the end are trimmed away there. -/
theorem trimEnd_append_blanks (cs : List Char) {back : List Char}
    (hback : ∀ c ∈ back, isBlank c = true) : trimEnd (cs ++ back) = trimEnd cs := by
  rw [trimEnd, List.reverse_append,
    List.dropWhile_append_of_pos (fun c hc => hback c (List.mem_reverse.mp hc)), ← trimEnd]

/-- Blanks around a text make no difference when it is trimmed. -/
theorem trim_padded {front back : List Char} (hfront : ∀ c ∈ front, isBlank c = true)
    (hback : ∀ c ∈ back, isBlank c = true) (cs : List Char) :
    trim (front ++ cs ++ back) = trim cs := by
  have hstart : trimStart (front ++ cs ++ back) = trimStart (cs ++ back) := by
    rw [List.append_assoc]
    exact List.dropWhile_append_of_pos hfront
  rw [trim, trim, hstart]
  cases hcs : trimStart cs with
  | nil =>
      -- Nothing but blanks was there in the first place.
      have hblank : ∀ c ∈ cs ++ back, isBlank c = true := by
        intro c hc
        rcases List.mem_append.mp hc with hc | hc
        · exact List.dropWhile_eq_nil_iff.mp hcs c hc
        · exact hback c hc
      rw [trimStart, List.dropWhile_eq_nil_iff.mpr hblank]
  | cons c rest =>
      have hsplit : trimStart (cs ++ back) = trimStart cs ++ back := by
        have hne : (cs.dropWhile isBlank).isEmpty = false := by
          rw [← trimStart, hcs]
          rfl
        rw [trimStart, List.dropWhile_append, hne]
        rfl
      rw [hsplit, hcs, trimEnd_append_blanks _ hback]

/-- What is not blank is not trimmed away. -/
theorem mem_trim_of_isBlank {cs : List Char} {c : Char} (hmem : c ∈ cs)
    (hc : isBlank c = false) : c ∈ trim cs := by
  obtain ⟨front, back, hsplit, hfront, hback⟩ := exists_eq_append_trim cs
  rw [hsplit] at hmem
  rcases List.mem_append.mp hmem with hmem | hmem
  · rcases List.mem_append.mp hmem with hmem | hmem
    · simp [hfront c hmem] at hc
    · exact hmem
  · simp [hback c hmem] at hc

/-- A text without blanks is trimmed. -/
theorem isTrimmed_of_forall {cs : List Char} (h : ∀ c ∈ cs, isBlank c = false) :
    IsTrimmed cs where
  head c hc := h c (List.mem_of_mem_head? hc)
  last c hc := h c (List.mem_of_getLast? hc)

/-! ### The table of lowercase characters -/

/-- The code point of the lowercase of a character of the run. -/
def CaseRun.image (run : CaseRun) (n : Nat) : Nat :=
  run.lower + (n - run.first)

/-- No character of `run` has its lowercase among these code points. -/
def CaseRun.keepsOff (run : CaseRun) (first last : Nat) : Bool :=
  Nat.blt (run.image run.last) first || Nat.blt last run.lower

/-- No character of `run` has its lowercase in the run `other`: they lie apart, or every
second code point is in the one and the rest in the other. -/
def CaseRun.isApart (run other : CaseRun) : Bool :=
  run.keepsOff other.first other.last ||
    (run.step == 2 || run.first == run.last) && other.step == 2 &&
      run.lower % 2 != other.first % 2

/-- Code points that are no lowercase of another character: ASCII but for its small letters,
the two characters with a rule of their own, blanks, and what is no character. -/
def noImages : List (Nat × Nat) := [
  (0x00, 0x60), (0x7B, 0xA0), (0x0130, 0x0130), (0x03A3, 0x03A3), (0x1680, 0x1680),
  (0x2000, 0x205F), (0x3000, 0x3000), (0xD800, 0xDFFF)]

theorem isApart_of_mem_lowerRuns {run other : CaseRun} (hrun : run ∈ lowerRuns)
    (hother : other ∈ lowerRuns) : run.isApart other = true := by
  have hall : lowerRuns.all (fun run => lowerRuns.all run.isApart) = true := by decide +kernel
  exact List.all_eq_true.mp (List.all_eq_true.mp hall run hrun) other hother

theorem keepsOff_of_mem_lowerRuns :
    ∀ run ∈ lowerRuns, (∀ i ∈ noImages, run.keepsOff i.1 i.2 = true) ∧
      run.image run.last < 0x110000 := by
  decide +kernel

theorem CaseRun.covers_iff {run : CaseRun} {n : Nat} :
    run.covers n = true ↔
      run.first ≤ n ∧ n ≤ run.last ∧ (n - run.first) % run.step = 0 := by
  simp [covers, and_assoc]

theorem CaseRun.keepsOff_iff {run : CaseRun} {first last : Nat} :
    run.keepsOff first last = true ↔ run.image run.last < first ∨ last < run.lower := by
  simp [keepsOff]

/-- The lowercase of a character of the run is outside of what the run keeps off. -/
theorem CaseRun.image_of_keepsOff {run : CaseRun} {first last n : Nat}
    (h : run.keepsOff first last = true) (hn : run.covers n = true) :
    run.image n < first ∨ last < run.image n := by
  obtain ⟨hfirst, hlast, _⟩ := covers_iff.mp hn
  have hoff := keepsOff_iff.mp h
  simp only [image] at *
  omega

/-- The lowercase of a character of one run is in no run that lies apart from it. -/
theorem CaseRun.covers_image {run other : CaseRun} {n : Nat} (h : run.isApart other = true)
    (hn : run.covers n = true) : other.covers (run.image n) = false := by
  rw [Bool.eq_false_iff]
  intro hcovers
  obtain ⟨hlow, hhigh, hmod⟩ := covers_iff.mp hcovers
  rw [isApart, Bool.or_eq_true] at h
  obtain h | h := h
  · have := image_of_keepsOff h hn
    omega
  · simp only [Bool.and_eq_true, Bool.or_eq_true, beq_iff_eq, bne_iff_ne] at h
    obtain ⟨⟨hstep, hother⟩, hparity⟩ := h
    obtain ⟨hfirst, hlast, hmod'⟩ := covers_iff.mp hn
    -- All of the one run is even and all of the other odd, or the other way round.
    have heven : (n - run.first) % 2 = 0 := by
      obtain h2 | h1 := hstep
      · rwa [h2] at hmod'
      · omega
    rw [hother, image] at hmod
    rw [image] at hlow
    omega

/-! ### Characters in lowercase -/

/-- The character is its own lowercase, wherever it stands. -/
def IsLower (c : Char) : Prop :=
  c ≠ 'Σ' ∧ lowerChar c = [c]

instance (c : Char) : Decidable (IsLower c) :=
  inferInstanceAs (Decidable (_ ∧ _))

/-- The lowercase of an ASCII character is in lowercase, and only that of a blank is one. -/
theorem isLower_toLower {c : Char} (hc : c.toNat < 0x80) :
    IsLower c.toLower ∧ (isBlank c = false → isBlank c.toLower = false) := by
  have hall : ∀ n < 0x80, IsLower (Char.ofNat n).toLower ∧
      (isBlank (Char.ofNat n) = false → isBlank (Char.ofNat n).toLower = false) := by
    decide +kernel
  simpa using hall c.toNat hc

/-- A character outside of ASCII and of all runs is in lowercase, the two characters with
rules of their own apart. -/
theorem isLower_of_covers {c : Char} (hascii : 0x80 ≤ c.toNat) (hdot : c.toNat ≠ 0x0130)
    (hsigma : c.toNat ≠ 0x03A3) (hruns : ∀ run ∈ lowerRuns, run.covers c.toNat = false) :
    IsLower c := by
  have hfind : lowerRuns.find? (·.covers c.toNat) = none := by
    simpa [List.find?_eq_none] using hruns
  refine ⟨fun h => hsigma (by rw [h]; rfl), ?_⟩
  rw [lowerChar, if_neg (by omega), if_neg hdot, hfind]

/-- What the two rules of their own give is in lowercase, and not blank. -/
theorem isLower_of_rule : ∀ c ∈ ['i', '\u0307', 'ς', 'σ'], IsLower c ∧ isBlank c = false := by
  -- The four are taken apart, or `decide` would go through all the characters there are.
  simp only [List.forall_mem_cons, List.not_mem_nil, false_implies, implies_true, and_true]
  decide +kernel

/-- The lowercase that the table gives keeps off the places where none may be, and is a
character. -/
theorem toNat_image {run : CaseRun} (hrun : run ∈ lowerRuns) {n : Nat}
    (hn : run.covers n = true) :
    (Char.ofNat (run.image n)).toNat = run.image n ∧
      ∀ i ∈ noImages, run.image n < i.1 ∨ i.2 < run.image n := by
  obtain ⟨hoff, htop⟩ := keepsOff_of_mem_lowerRuns run hrun
  have himage : ∀ i ∈ noImages, run.image n < i.1 ∨ i.2 < run.image n := fun i hi =>
    CaseRun.image_of_keepsOff (hoff i hi) hn
  refine ⟨?_, himage⟩
  have hle : run.image n ≤ run.image run.last := by
    have hlast := (CaseRun.covers_iff.mp hn).2.1
    simp only [CaseRun.image]
    omega
  have hsurrogates := himage (0xD800, 0xDFFF) (by simp [noImages])
  have hvalid : (run.image n).isValidChar := by
    simp only [Nat.isValidChar]
    omega
  rw [Char.ofNat, dif_pos hvalid]
  rfl

/-- The lowercase that the table gives is in lowercase, and not blank. -/
theorem isLower_image {run : CaseRun} (hrun : run ∈ lowerRuns) {n : Nat}
    (hn : run.covers n = true) :
    IsLower (Char.ofNat (run.image n)) ∧ isBlank (Char.ofNat (run.image n)) = false := by
  obtain ⟨hnat, himage⟩ := toNat_image hrun hn
  simp only [noImages, List.forall_mem_cons, List.not_mem_nil, false_implies, implies_true,
    and_true] at himage
  constructor
  · by_cases hascii : run.image n < 0x80
    · have hall : ∀ m < 0x80, 0x60 < m → m < 0x7B → IsLower (Char.ofNat m) := by decide +kernel
      exact hall _ hascii (by omega) (by omega)
    · refine isLower_of_covers (by omega) (by omega) (by omega) fun other hother => ?_
      rw [hnat]
      exact CaseRun.covers_image (isApart_of_mem_lowerRuns hrun hother) hn
  · simp only [isBlank, hnat, Bool.or_eq_false_iff, Bool.and_eq_false_iff,
      decide_eq_false_iff_not, beq_eq_false_iff_ne]
    omega

/-- What the lowercase of a character can be, the capital sigma apart. In ASCII it is that of core, the
capital dotted `İ` has a rule of its own, and elsewhere the table decides. What the table does not
have stays. -/
theorem lowerChar_cases {c x : Char} (hx : x ∈ lowerChar c) :
    (c.toNat < 0x80 ∧ x = c.toLower) ∨ x ∈ ['i', '\u0307'] ∨
    (∃ run ∈ lowerRuns, run.covers c.toNat = true ∧ x = Char.ofNat (run.image c.toNat)) ∨
    (0x80 ≤ c.toNat ∧ c.toNat ≠ 0x0130 ∧ (∀ run ∈ lowerRuns, run.covers c.toNat = false) ∧
      x = c) := by
  unfold lowerChar at hx
  split at hx
  · rename_i hascii
    exact .inl ⟨hascii, List.mem_singleton.mp hx⟩
  · rename_i hascii
    split at hx
    · exact .inr (.inl hx)
    · rename_i hdot
      split at hx
      · rename_i run hrun
        have hcovers : run.covers c.toNat = true :=
          List.find?_some (p := fun run : CaseRun => run.covers c.toNat) hrun
        exact .inr (.inr (.inl ⟨run, List.mem_of_find?_eq_some hrun, hcovers,
          List.mem_singleton.mp hx⟩))
      · rename_i hnone
        have hruns : ∀ run ∈ lowerRuns, run.covers c.toNat = false := by
          simpa [List.find?_eq_none] using hnone
        exact .inr (.inr (.inr ⟨by omega, hdot, hruns, List.mem_singleton.mp hx⟩))

/-- The lowercase of a character other than the capital sigma is in lowercase, and it has a
blank in it only if the character is one. -/
theorem isLower_of_mem_lowerChar {c x : Char} (hc : c ≠ 'Σ') (hx : x ∈ lowerChar c) :
    IsLower x ∧ (isBlank c = false → isBlank x = false) := by
  obtain ⟨hascii, rfl⟩ | hrule | ⟨run, hrun, hcovers, rfl⟩ | ⟨hascii, hdot, hruns, rfl⟩ :=
    lowerChar_cases hx
  · exact isLower_toLower hascii
  · have hlower := isLower_of_rule x (List.mem_append_left ['ς', 'σ'] hrule)
    exact ⟨hlower.1, fun _ => hlower.2⟩
  · have himage := isLower_image hrun hcovers
    exact ⟨himage.1, fun _ => himage.2⟩
  · have hsigma : x.toNat ≠ 0x03A3 := fun h => hc (Char.toNat_inj.mp h)
    exact ⟨isLower_of_covers hascii hdot hsigma hruns, id⟩

/-- The two forms of the small sigma. -/
theorem mem_of_mem_lowerBetween_sigma {before after : List Char} {x : Char}
    (hx : x ∈ lowerBetween before 'Σ' after) : x ∈ ['ς', 'σ'] := by
  rw [lowerBetween, if_pos rfl, List.mem_singleton] at hx
  rw [hx]
  split <;> simp

theorem isLower_of_mem_lowerBetween {before after : List Char} {c x : Char}
    (hx : x ∈ lowerBetween before c after) :
    IsLower x ∧ (isBlank c = false → isBlank x = false) := by
  by_cases hc : c = 'Σ'
  · subst hc
    have hrule := isLower_of_rule x
      (List.mem_append_right ['i', '\u0307'] (mem_of_mem_lowerBetween_sigma hx))
    exact ⟨hrule.1, fun _ => hrule.2⟩
  · rw [lowerBetween, if_neg hc] at hx
    exact isLower_of_mem_lowerChar hc hx

/-- Lowercase makes no character in front of the small letters, such as an equals sign or a line
feed: what is there was there before. -/
theorem eq_of_mem_lowerBetween {before after : List Char} {c x : Char}
    (hx : x ∈ lowerBetween before c after) (hlow : x.toNat < 0x61) : x = c := by
  have hrules : ∀ y ∈ ['i', '\u0307', 'ς', 'σ'], 0x61 ≤ y.toNat := by
    simp only [List.forall_mem_cons, List.not_mem_nil, false_implies, implies_true, and_true]
    decide
  by_cases hc : c = 'Σ'
  · subst hc
    have hhigh := hrules x
      (List.mem_append_right ['i', '\u0307'] (mem_of_mem_lowerBetween_sigma hx))
    omega
  · rw [lowerBetween, if_neg hc] at hx
    obtain ⟨hascii, rfl⟩ | hrule | ⟨run, hrun, hcovers, rfl⟩ | ⟨-, -, -, rfl⟩ :=
      lowerChar_cases hx
    · have hall : ∀ n < 0x80, (Char.ofNat n).toLower.toNat < 0x61 →
          (Char.ofNat n).toLower = Char.ofNat n := by
        decide +kernel
      simpa using hall c.toNat hascii (by simpa using hlow)
    · have hhigh := hrules x (List.mem_append_left ['ς', 'σ'] hrule)
      omega
    · obtain ⟨hnat, himage⟩ := toNat_image hrun hcovers
      have hoff := himage (0x00, 0x60) (by simp [noImages])
      rw [hnat] at hlow
      omega
    · rfl

/-- No character disappears. -/
theorem lowerBetween_ne_nil (before : List Char) (c : Char) (after : List Char) :
    lowerBetween before c after ≠ [] := by
  unfold lowerBetween lowerChar
  split
  · simp
  · split
    · simp
    · split
      · simp
      · split <;> simp

/-! ### Texts in lowercase -/

theorem lowerOnto_eq_append (before out cs : List Char) :
    lowerOnto before out cs = out.reverse ++ lowerOnto before [] cs := by
  induction cs generalizing before out with
  | nil => simp [lowerOnto]
  | cons c cs ih =>
      rw [lowerOnto, lowerOnto, ih, ih (c :: before) (_ ++ [])]
      simp

/-- The lowercase of a text is that of its first character and that of the rest. -/
theorem lowerOnto_cons (before : List Char) (c : Char) (cs : List Char) :
    lowerOnto before [] (c :: cs)
      = lowerBetween before c cs ++ lowerOnto (c :: before) [] cs := by
  rw [lowerOnto, lowerOnto_eq_append]
  simp

/-- No text disappears. -/
theorem lowercase_eq_nil_iff {cs : List Char} : lowercase cs = [] ↔ cs = [] := by
  cases cs with
  | nil => exact iff_of_true rfl rfl
  | cons c cs => simp [lowercase, lowerOnto_cons, lowerBetween_ne_nil]

/-- Every character of a lowercase text is what became of some character of the text in its place. -/
theorem exists_mem_lowerBetween {cs : List Char} {x : Char} (hx : x ∈ lowercase cs) :
    ∃ before c after, cs = before ++ c :: after ∧ x ∈ lowerBetween before.reverse c after := by
  suffices h : ∀ front, x ∈ lowerOnto front [] cs →
      ∃ before c after, cs = before ++ c :: after ∧
        x ∈ lowerBetween (before.reverse ++ front) c after by
    simpa using h [] hx
  clear hx
  -- The text in front of what is left grows by one character at each step.
  induction cs with
  | nil => simp [lowerOnto]
  | cons c cs ih =>
      intro front hx
      rw [lowerOnto_cons] at hx
      rcases List.mem_append.mp hx with hx | hx
      · exact ⟨[], c, cs, rfl, hx⟩
      · obtain ⟨before, d, after, rfl, himage⟩ := ih _ hx
        exact ⟨c :: before, d, after, rfl, by simpa using himage⟩

/-- **Lowercase is in lowercase.** -/
theorem isLower_of_mem_lowercase {cs : List Char} : ∀ c ∈ lowercase cs, IsLower c := by
  intro x hx
  obtain ⟨before, c, after, -, himage⟩ := exists_mem_lowerBetween hx
  exact (isLower_of_mem_lowerBetween himage).1

/-- What stands in front of the small letters in a lowercase text stood in the text. -/
theorem mem_of_mem_lowercase {cs : List Char} {x : Char} (hx : x ∈ lowercase cs)
    (hlow : x.toNat < 0x61) : x ∈ cs := by
  obtain ⟨before, c, after, rfl, himage⟩ := exists_mem_lowerBetween hx
  rw [eq_of_mem_lowerBetween himage hlow]
  simp

/-- A text in lowercase stays as it is. -/
theorem lowercase_of_forall {cs : List Char} (h : ∀ c ∈ cs, IsLower c) : lowercase cs = cs := by
  suffices hfrom : ∀ before, lowerOnto before [] cs = cs from hfrom []
  induction cs with
  | nil => intro before; rfl
  | cons c cs ih =>
      intro before
      obtain ⟨hsigma, hlower⟩ := h c (by simp)
      rw [lowerOnto_cons, ih (fun x hx => h x (by simp [hx])), lowerBetween, if_neg hsigma, hlower]
      rfl

theorem lowercase_lowercase (cs : List Char) : lowercase (lowercase cs) = lowercase cs :=
  lowercase_of_forall isLower_of_mem_lowercase

/-- Lowercase puts no blank at the end of a text. -/
theorem isBlank_getLast?_lowerOnto {cs : List Char} :
    ∀ before, (∀ c ∈ cs.getLast?, isBlank c = false) →
      ∀ c ∈ (lowerOnto before [] cs).getLast?, isBlank c = false := by
  induction cs with
  | nil => intro before _ c hc; simp [lowerOnto] at hc
  | cons d cs ih =>
      intro before h c hc
      rw [lowerOnto_cons] at hc
      cases cs with
      | nil =>
          have hmem : c ∈ lowerBetween before d [] := by
            simpa [lowerOnto] using List.mem_of_getLast? hc
          exact (isLower_of_mem_lowerBetween hmem).2 (h d rfl)
      | cons e cs =>
          have hne : lowerOnto (d :: before) [] (e :: cs) ≠ [] := by
            simp [lowerOnto_cons, lowerBetween_ne_nil]
          rw [List.getLast?_append_of_ne_nil _ hne] at hc
          exact ih (d :: before) (by simpa using h) c hc

/-- **The lowercase of a trimmed text is trimmed.** -/
theorem isTrimmed_lowercase {cs : List Char} (h : IsTrimmed cs) : IsTrimmed (lowercase cs) where
  head c hc := by
    cases cs with
    | nil => simp [lowercase, lowerOnto] at hc
    | cons d cs =>
        have hmem : c ∈ lowerBetween [] d cs := by
          rw [lowercase, lowerOnto_cons,
            List.head?_append_of_ne_nil _ (lowerBetween_ne_nil [] d cs)] at hc
          exact List.mem_of_mem_head? hc
        exact (isLower_of_mem_lowerBetween hmem).2 (h.head d rfl)
  last := isBlank_getLast?_lowerOnto [] h.last

end AnswerDesk.Text
