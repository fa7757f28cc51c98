import AnswerDesk.Proofs.Decimal.Writer
import AnswerDesk.Proofs.Expr.Reader
import AnswerDesk.Proofs.Token.Lexemes

/-!
# `AnswerDesk.Proofs.Expr.Text`: the text of a tree reads back as the tree

`Expr.text` puts parentheses around every operation, so reading it never has to choose
which operation comes first. The text of a tree is one factor, and its levels can be read
off the tree (`Expr.nesting`): two for a negation, that of its parenthesis and that of its
sign, and one for an operation on two numbers.

* `derives_kinds`: the lexemes of the text derive the tree, as a factor, with exactly that
  number of levels.
* `exists_lexes_text`: the text splits into these lexemes. A literal is written as a
  numeral, and no digit and no point stands next to it.
* `exists_factor_kinds_eq_error`: with less room than that, reading ends at the level that
  cannot be opened. A tree whose levels could all be opened is never too high, since its
  text has a level for every operation, so the other limit cannot come first.

Only literals that are not negative and whose expansion ends are written exactly. Those of
every tree that was read from a text are such.
-/

set_option autoImplicit false

namespace AnswerDesk.Expr

open Token (Kind Lexes ofChar?_symbol)
open Decimal (Denotes Terminating isNumeralChar)

/-- The number of levels that are open at once in the text of the tree. -/
def nesting : Expr → Nat
  | .literal _ => 0
  | .negate e => 2 + e.nesting
  | .binary _ a b => 1 + max a.nesting b.nesting

/-- The kinds of the lexemes in the text of the tree. -/
def kinds : Expr → List Kind
  | .literal v => [.number v]
  | .negate e => .opening :: (.operator .sub :: e.kinds ++ [.closing])
  | .binary op a b => .opening :: (a.kinds ++ .operator op :: b.kinds ++ [.closing])

/-- No literal is negative, and the expansion of each ends. -/
def HasDecimalLiterals (e : Expr) : Prop :=
  ∀ v, .literal v ∈ e.postorder → 0 ≤ v ∧ Terminating v

/-! ### The lexemes derive the tree -/

/-- The lexemes of the text derive the tree. -/
theorem derives_kinds (e : Expr) : Derives .factor e.kinds e e.nesting := by
  induction e with
  | literal v => exact .number v
  | negate e ih =>
      have h := Derives.parentheses (.expression_of_factor (.negation ih))
      rwa [show e.nesting + 1 + 1 = nesting (.negate e) by rw [nesting]; omega] at h
  | binary op a b iha ihb =>
      have h := Derives.parentheses (.expression_of_factors op iha ihb)
      rwa [show max a.nesting b.nesting + 1 = nesting (.binary op a b) by
        rw [nesting]; omega] at h

/-- The text has a level for every operation on the way to a literal. -/
theorem height_le_nesting (e : Expr) : e.height ≤ e.nesting := by
  induction e with
  | literal v => exact Nat.le_refl 0
  | negate e ih => simp only [height, nesting]; omega
  | binary op a b iha ihb => simp only [height, nesting]; omega

/-- With room for its levels the text of a tree is read, whatever stands behind it. -/
theorem factor_kinds {e : Expr} {us : List Token} (hus : us.map (·.kind) = e.kinds)
    (limit finish : Nat) {room : Nat} (hroom : room ≤ maxHeight) (hnesting : e.nesting ≤ room)
    (rest : List Token) : factor limit finish room (us ++ rest) = .ok (e, rest) := by
  have hheight := height_le_nesting e
  exact read_of_derives (derives_kinds e) limit finish room us rest hus hnesting (by omega)
    nofun

/-- Without room for its levels reading the text of a tree ends at a level that cannot be
opened. -/
theorem exists_factor_kinds_eq_error (e : Expr) :
    ∀ (limit finish room : Nat) (us rest : List Token), us.map (·.kind) = e.kinds →
      room ≤ maxHeight → room < e.nesting →
        ∃ pos, factor limit finish room (us ++ rest) = .error (.tooDeep limit pos) := by
  induction e with
  | literal v =>
      intro limit finish room us rest _ _ hlt
      simp only [nesting] at hlt
      omega
  | negate e ih =>
      intro limit finish room us rest hus hroom hlt
      obtain ⟨⟨k, pos⟩, vs, rfl, rfl, hvs⟩ := List.map_eq_cons_iff.mp hus
      cases room with
      | zero => exact ⟨pos, by simp⟩
      | succ room =>
          obtain ⟨⟨k', pos'⟩, ws, rfl, rfl, hws⟩ := List.map_eq_cons_iff.mp hvs
          obtain ⟨xs, cs, rfl, hxs, _⟩ := List.map_eq_append_iff.mp hws
          -- The minus sign finds no room, or the tree behind it does not.
          have herr : ∃ p, factor limit finish room
              (⟨.operator .sub, pos'⟩ :: (xs ++ (cs ++ rest))) = .error (.tooDeep limit p) := by
            cases room with
            | zero => exact ⟨pos', by simp⟩
            | succ room =>
                simp only [nesting] at hlt
                obtain ⟨p, hp⟩ :=
                  ih limit finish room xs (cs ++ rest) hxs (by omega) (by omega)
                exact ⟨p, by simp [hp]⟩
          obtain ⟨p, hp⟩ := herr
          exact ⟨p, by simp [expression_of_error hp]⟩
  | binary op a b iha ihb =>
      intro limit finish room us rest hus hroom hlt
      obtain ⟨⟨k, pos⟩, vs, rfl, rfl, hvs⟩ := List.map_eq_cons_iff.mp hus
      cases room with
      | zero => exact ⟨pos, by simp⟩
      | succ room =>
          obtain ⟨ws, cs, rfl, hws, _⟩ := List.map_eq_append_iff.mp hvs
          obtain ⟨xs, ys, rfl, hxs, hys⟩ := List.map_eq_append_iff.mp hws
          obtain ⟨⟨k', pos'⟩, zs, rfl, rfl, hzs⟩ := List.map_eq_cons_iff.mp hys
          simp only [nesting] at hlt
          have herr : ∃ p, expression (factor limit finish room)
              (xs ++ ⟨.operator op, pos'⟩ :: (zs ++ (cs ++ rest)))
                = .error (.tooDeep limit p) := by
            -- The left operand fails, or it is read and the right one fails.
            by_cases ha : room < a.nesting
            · obtain ⟨p, hp⟩ := iha limit finish room xs
                (⟨.operator op, pos'⟩ :: (zs ++ (cs ++ rest))) hxs (by omega) ha
              exact ⟨p, expression_of_error hp⟩
            · have hleft := factor_kinds hxs limit finish (by omega : room ≤ maxHeight)
                (by omega) (⟨.operator op, pos'⟩ :: (zs ++ (cs ++ rest)))
              obtain ⟨p, hp⟩ :=
                ihb limit finish room zs (cs ++ rest) hzs (by omega) (by omega)
              exact ⟨p, expression_of_second_error hleft hp⟩
          obtain ⟨p, hp⟩ := herr
          exact ⟨p, by simp [hp]⟩

/-! ### The text splits into the lexemes -/

theorem toList_text_literal (v : Rat) :
    (text (.literal v)).toList = Decimal.writeChars v Decimal.defaultDigits := by
  rw [text, Decimal.toList_write]

theorem toList_text_negate (e : Expr) :
    (text (.negate e)).toList = '(' :: '-' :: (e.text.toList ++ [')']) := by
  simp [text]

theorem toList_text_binary (op : Op) (a b : Expr) :
    (text (.binary op a b)).toList
      = '(' :: (a.text.toList ++ ' ' :: op.symbol :: ' ' :: (b.text.toList ++ [')'])) := by
  simp [text]

/-- The text of a tree splits into its lexemes, with those of the text behind it. -/
theorem exists_lexes_text (e : Expr) :
    ∀ (pos : Nat) (rest : List Char) (ts : List Token), e.HasDecimalLiterals →
      (∀ c ∈ rest.head?, isNumeralChar c = false) →
      Lexes (pos + e.text.toList.length) rest ts →
        ∃ us, us.map (·.kind) = e.kinds ++ ts.map (·.kind) ∧
          Lexes pos (e.text.toList ++ rest) us := by
  induction e with
  | literal v =>
      intro pos rest ts he hrest h
      obtain ⟨h0, hend⟩ := he v (by simp [postorder])
      rw [toList_text_literal] at h ⊢
      exact ⟨_, by simp [kinds],
        .number (Decimal.denotes_writeChars h0 hend Decimal.defaultDigits) hrest h⟩
  | negate e ih =>
      intro pos rest ts he hrest h
      have hx : e.HasDecimalLiterals := fun v hv => he v (by simp [postorder, hv])
      have hend : pos + (text (.negate e)).toList.length
          = pos + 1 + 1 + e.text.toList.length + 1 := by
        simp only [toList_text_negate, List.length_cons, List.length_append, List.length_nil]
        omega
      rw [hend] at h
      -- From the end of the text to its front, since what follows a piece comes first.
      have hclose := Lexes.symbol (c := ')') rfl h
      obtain ⟨us, hus, hlexes⟩ := ih _ _ _ hx (by simp; rfl) hclose
      have hopen := Lexes.symbol (c := '(') rfl (.symbol (c := '-') rfl hlexes)
      refine ⟨_, ?_, by simpa [toList_text_negate] using hopen⟩
      simp [kinds, hus]
  | binary op a b iha ihb =>
      intro pos rest ts he hrest h
      have ha : a.HasDecimalLiterals := fun v hv => he v (by simp [postorder, hv])
      have hb : b.HasDecimalLiterals := fun v hv => he v (by simp [postorder, hv])
      have hend : pos + (text (.binary op a b)).toList.length
          = pos + 1 + a.text.toList.length + 1 + 1 + 1 + b.text.toList.length + 1 := by
        simp only [toList_text_binary, List.length_cons, List.length_append, List.length_nil]
        omega
      rw [hend] at h
      have hclose := Lexes.symbol (c := ')') rfl h
      obtain ⟨ws, hws, hright⟩ := ihb _ _ _ hb (by simp; rfl) hclose
      have hmiddle := Lexes.blank (c := ' ') rfl
        (.symbol (ofChar?_symbol op) (.blank (c := ' ') rfl hright))
      obtain ⟨us, hus, hleft⟩ := iha _ _ _ ha (by simp; rfl) hmiddle
      have hopen := Lexes.symbol (c := '(') rfl hleft
      refine ⟨_, ?_, by simpa [toList_text_binary] using hopen⟩
      simp [kinds, hus, hws]

/-- The tokens of the text of a tree are its lexemes and the end mark. -/
theorem exists_tokenize_text {e : Expr} (he : e.HasDecimalLiterals) :
    ∃ us, us.map (·.kind) = e.kinds ∧ (∀ t ∈ us, t.kind ≠ .finish) ∧
      Token.tokenize e.text = .ok (us ++ [⟨.finish, e.text.toList.length⟩]) := by
  obtain ⟨us, hus, hlexes⟩ := exists_lexes_text e 0 [] [] he (by simp) (.nil _)
  rw [List.append_nil] at hlexes
  exact ⟨us, by simpa using hus, hlexes.kind_ne_finish,
    Token.readAll_eq_ok_iff.mpr ⟨us, hlexes, rfl⟩⟩

/-! ### Reading the text back -/

/-- The literals of a tree that was read from a text are not negative, and the expansion
of each ends: they are what numerals of the text denote. -/
theorem hasDecimalLiterals_of_tokenize {s : String} {tokens : List Token} {depth : Nat}
    {e : Expr} (htokens : Token.tokenize s = .ok tokens) (he : ofTokens depth tokens = .ok e) :
    e.HasDecimalLiterals := by
  obtain ⟨ts, hlexes, rfl⟩ := Token.readAll_eq_ok_iff.mp htokens
  obtain ⟨levels, hder, _⟩ := ofTokens_eq_ok_iff.mp he
  rw [body_append_finish hlexes.kind_ne_finish] at hder
  intro v hv
  obtain ⟨run, hrun, _⟩ := hlexes.exists_denotes ((hder.literal_mem_postorder_iff v).mp hv)
  exact ⟨hrun.nonneg, hrun.terminating⟩

/-- A tree whose kinds stand before an end mark, with at most `depth` levels. -/
theorem ofTokens_kinds {e : Expr} {us : List Token} (hus : us.map (·.kind) = e.kinds)
    (hfinish : ∀ t ∈ us, t.kind ≠ .finish) (pos : Nat) {depth : Nat}
    (h : e.nesting ≤ min depth maxHeight) :
    ofTokens depth (us ++ [⟨.finish, pos⟩]) = .ok e := by
  have hheight := height_le_nesting e
  rw [ofTokens_eq_ok_iff, body_append_finish hfinish, hus]
  exact ⟨e.nesting, .expression_of_factor (derives_kinds e), h, by omega⟩

/-- A tree whose kinds stand before an end mark, with more than `depth` levels. -/
theorem exists_ofTokens_kinds_eq_error {e : Expr} {us : List Token}
    (hus : us.map (·.kind) = e.kinds) (hfinish : ∀ t ∈ us, t.kind ≠ .finish) (finish : Nat)
    {depth : Nat} (h : min depth maxHeight < e.nesting) :
    ∃ pos, ofTokens depth (us ++ [⟨.finish, finish⟩])
      = .error (.tooDeep (min depth maxHeight) pos) := by
  have hbody := body_append_finish hfinish finish []
  obtain ⟨pos, herr⟩ := exists_factor_kinds_eq_error e (min depth maxHeight)
    (finishPos (us ++ [⟨.finish, finish⟩])) (min depth maxHeight) us [] hus (by omega) h
  rw [List.append_nil] at herr
  refine ⟨pos, ofTokens_of_error ?_ (by rw [hbody]; exact expression_of_error herr)⟩
  rw [hbody]
  rintro rfl
  cases e <;> simp [kinds] at hus

/-- **The text of a tree reads back as the tree, exactly up to the limit on levels.** For
a tree with decimal literals the text has tokens. Under any limit they are read as that
tree if the levels of the text are allowed, and otherwise reading fails for that limit.
Every tree that was read from a text has decimal literals. -/
theorem text_reads_back :
    (∀ e : Expr, e.HasDecimalLiterals → ∃ tokens, Token.tokenize e.text = .ok tokens ∧
      ∀ depth, (e.nesting ≤ min depth 512 → ofTokens depth tokens = .ok e) ∧
        (¬ e.nesting ≤ min depth 512 →
          ∃ pos, ofTokens depth tokens = .error (.tooDeep (min depth 512) pos))) ∧
    ∀ (s : String) (tokens : List Token) (depth : Nat) (e : Expr),
      Token.tokenize s = .ok tokens → ofTokens depth tokens = .ok e → e.HasDecimalLiterals := by
  refine ⟨fun e he => ?_, fun s tokens depth e => hasDecimalLiterals_of_tokenize⟩
  obtain ⟨us, hus, hfinish, htokens⟩ := exists_tokenize_text he
  refine ⟨_, htokens, fun depth => ⟨ofTokens_kinds hus hfinish _, fun hlt => ?_⟩⟩
  exact exists_ofTokens_kinds_eq_error hus hfinish _ (Nat.lt_of_not_le hlt)

/-- `((-1.5) * 2)` has three levels: two limits, one on either side. -/
theorem negated_product_reads_back :
    let e : Expr := .binary .mul (.negate (.literal (3 / 2))) (.literal 2)
    e.HasDecimalLiterals ∧ ∃ tokens, Token.tokenize e.text = .ok tokens ∧
      ofTokens 3 tokens = .ok e ∧ ∃ pos, ofTokens 2 tokens = .error (.tooDeep 2 pos) := by
  intro e
  have he : e.HasDecimalLiterals := by
    intro v hv
    have hvalues : v = 3 / 2 ∨ v = 2 := by simpa [e, postorder] using hv
    rcases hvalues with rfl | rfl
    · exact ⟨by decide +kernel, 1, by decide +kernel⟩
    · exact ⟨by decide +kernel, 0, by decide +kernel⟩
  obtain ⟨tokens, htokens, hread⟩ := text_reads_back.1 e he
  exact ⟨he, tokens, htokens, (hread 3).1 (by decide), (hread 2).2 (by decide)⟩

end AnswerDesk.Expr
