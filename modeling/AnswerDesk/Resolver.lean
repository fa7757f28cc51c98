import AnswerDesk.Expr.Value
import AnswerDesk.Limits
import AnswerDesk.Text.Blank
import AnswerDesk.Text.Lowercase
import AnswerDesk.Token.Reader

/-!
# `AnswerDesk.Resolver`: the answer to a question

A question is trimmed. Unless nothing is left, the known questions are asked first,
with the trimmed question in lowercase, and their answer stands whatever the
question looks like. Otherwise a question that consists of the characters of
calculations only, with a digit among them, is calculated. Any other question has
no answer.

The bound on the length concerns calculations alone, and comes before they are read.
`explain` shows how a calculation is read. It has the same bounds, but neither asks
the known questions nor looks whether the text resembles a calculation.
-/

set_option autoImplicit false

namespace AnswerDesk

/-- Why a calculation failed, by stage. -/
inductive ArithmeticError where
  | reading (e : LexicalError)
  | grammar (e : GrammarError)
  | value (e : EvalError)
  deriving Repr, DecidableEq

def ArithmeticError.message : ArithmeticError → String
  | .reading e => s!"lecture : {e.message}"
  | .grammar e => s!"syntaxe : {e.message}"
  | .value e => s!"calcul : {e.message}"

/-- Why a question has no answer. -/
inductive ResolutionError where
  | emptyQuestion
  | tooLong (length max : Nat)
  | notFound (question : String)
  | arithmetic (e : ArithmeticError)
  deriving Repr, DecidableEq

def ResolutionError.message : ResolutionError → String
  | .emptyQuestion => "question vide"
  | .tooLong length max => s!"question trop longue ({length} caractères, maximum {max})"
  | .notFound question => s!"la question '{question}' est introuvable"
  | .arithmetic e => s!"erreur dans l’expression : {e.message}"

/-- How a calculation was read. -/
structure Explanation where
  /-- Its tokens on one line. -/
  tokens : String
  /-- Its tree. -/
  tree : String
  deriving Repr, DecidableEq

namespace Calculation

/-- A character that occurs in calculations. -/
def isCalculationChar (c : Char) : Bool :=
  c.isDigit || Text.isBlank c || c == '.' || c == '+' || c == '-' || c == '*' || c == '/' ||
    c == '(' || c == ')'

/-- The text resembles a calculation. Whether it is one shows when it is read. -/
def isCandidate (cs : List Char) : Bool :=
  cs.all isCalculationChar && cs.any Char.isDigit

/-- The text is no longer than the limits allow. -/
def checkLength (limits : Limits) (cs : List Char) : Except ResolutionError Unit :=
  if limits.length < cs.length then .error (.tooLong cs.length limits.length) else .ok ()

/-- The tokens and the tree of a calculation. -/
def read (limits : Limits) (cs : List Char) :
    Except ArithmeticError (List Token × Expr) :=
  match Token.readAll cs with
  | .error e => .error (.reading e)
  | .ok tokens =>
    match Expr.ofTokens limits.depth tokens with
    | .error e => .error (.grammar e)
    | .ok e => .ok (tokens, e)

/-- The exact value of a calculation. -/
def value (limits : Limits) (cs : List Char) : Except ArithmeticError Rat := do
  let (_, e) ← read limits cs
  match e.evaluate with
  | .error e => .error (.value e)
  | .ok v => .ok v

/-- The answer to a question, trimmed, that is not among the known ones. -/
def answer (limits : Limits) (cs : List Char) : Except ResolutionError String :=
  if isCandidate cs then do
    checkLength limits cs
    match value limits cs with
    | .error e => .error (.arithmetic e)
    | .ok v => .ok (Decimal.write v limits.digits)
  else
    .error (.notFound (String.ofList cs))

/-- How a text is read as a calculation. -/
def explain (limits : Limits) (text : String) : Except ResolutionError Explanation := do
  let cs := Text.trim text.toList
  checkLength limits cs
  match read limits cs with
  | .error e => .error (.arithmetic e)
  | .ok (tokens, e) => .ok ⟨Token.line tokens, e.text⟩

end Calculation

/-- The answer to a question, where `ask` gives the answers to known questions. What
else `ask` does, such as counting, is left to its monad. -/
def resolveWith {m : Type → Type} [Monad m] (ask : String → m (Option String))
    (limits : Limits) (question : String) : m (Except ResolutionError String) :=
  match Text.trim question.toList with
  | [] => pure (.error .emptyQuestion)
  | c :: cs => do
    match ← ask (String.ofList (Text.lowercase (c :: cs))) with
    | some answer => pure (.ok answer)
    | none => pure (Calculation.answer limits (c :: cs))

/-- What answers questions: the known ones, and bounds on calculations. -/
structure Resolver where
  lookup : String → Option String
  limits : Limits

namespace Resolver

/-- A resolver whose limits are brought under their caps. -/
def withLimits (lookup : String → Option String) (limits : Limits) : Resolver where
  lookup := lookup
  limits := limits.capped

/-- The answer to a question. -/
def resolve (r : Resolver) (question : String) : Except ResolutionError String :=
  Id.run (resolveWith (fun key => pure (r.lookup key)) r.limits question)

/-- How a text is read as a calculation, within the limits of the resolver. -/
def explain (r : Resolver) (text : String) : Except ResolutionError Explanation :=
  Calculation.explain r.limits text

end Resolver

end AnswerDesk
