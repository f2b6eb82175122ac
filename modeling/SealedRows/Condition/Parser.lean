import SealedRows.Condition.Token

/-! # Reading conditions

`not` binds tighter than `and`, and `and` tighter than `or`; both join from the left. Words are taken
one after the other. What has been read is a stack of contexts, innermost first, each of which waits
for a condition, and a stage that tells what may come next.
-/
namespace SealedRows

inductive ParseContext where
  | paren
  | not
  | and (left : Condition Value)
  | or (left : Condition Value)

inductive ParseStage where
  | operand
  /-- What follows the name of a field, or what follows a condition. -/
  | field (name : Text)
  | literal (field : Text) (op : Operator)
  /-- A number after a minus sign. -/
  | negative (field : Text) (op : Operator)
  | nullness (field : Text)
  | notNull (field : Text)
  /-- What follows a condition. -/
  | complete (c : Condition Value)

structure ParseState where
  contexts : List ParseContext
  stage : ParseStage

namespace ParseState

def start : ParseState := ⟨[], .operand⟩

def operatorOf? : Sign → Option Operator
  | .equal | .doubleEqual => some .eq
  | .bangEqual | .angles => some .ne
  | .less => some .lt
  | .lessEqual => some .le
  | .greater => some .gt
  | .greaterEqual => some .ge
  | _ => none

/-- The condition that a field is compared to a value; to be equal to null is to be null. -/
def comparison (field : Text) (op : Operator) : Value → Condition Value
  | .none =>
    match op with
    | .eq => .nullCheck field true
    | .ne => .nullCheck field false
    | _ => .comparison field op .none
  | v => .comparison field op v

/-- Gives a condition to the contexts that bind tighter than `or`. -/
def completed (c : Condition Value) : List ParseContext → ParseState
  | .not :: rest => completed (.not c) rest
  | .and left :: rest => completed (.and left c) rest
  | contexts => ⟨contexts, .complete c⟩

/-- Gives a condition to a context that waits for the right side of an `or`. -/
def disjoined (c : Condition Value) : List ParseContext → Condition Value × List ParseContext
  | .or left :: rest => (.or left c, rest)
  | contexts => (c, contexts)

def afterCondition? (c : Condition Value) (contexts : List ParseContext) : Word → Option ParseState
  | .keyword .and _ => some ⟨.and c :: contexts, .operand⟩
  | .keyword .or _ =>
    let (c, contexts) := disjoined c contexts
    some ⟨.or c :: contexts, .operand⟩
  | .sign .rightParen =>
    match disjoined c contexts with
    | (c, .paren :: rest) => some (completed c rest)
    | _ => none
  | _ => none

/-- Gives a condition that was just read to its contexts, and takes the word that follows it. -/
def afterLeaf? (c : Condition Value) (contexts : List ParseContext) (w : Word) : Option ParseState :=
  match completed c contexts with
  | ⟨contexts, .complete c⟩ => afterCondition? c contexts w
  | _ => none

def next? (s : ParseState) (w : Word) : Option ParseState :=
  match s.stage with
  | .operand =>
    match w with
    | .keyword .not _ => some ⟨.not :: s.contexts, .operand⟩
    | .sign .leftParen => some ⟨.paren :: s.contexts, .operand⟩
    | .identifier name => some ⟨s.contexts, .field name⟩
    | _ => none
  | .field name =>
    match w with
    | .sign sign =>
      match operatorOf? sign with
      | some op => some ⟨s.contexts, .literal name op⟩
      | none => afterLeaf? (.isTrue name) s.contexts w
    | .keyword .is _ => some ⟨s.contexts, .nullness name⟩
    | _ => afterLeaf? (.isTrue name) s.contexts w
  | .literal field op =>
    match w with
    | .integer n => some (completed (comparison field op (.int n)) s.contexts)
    | .float x => some (completed (comparison field op (.float x)) s.contexts)
    | .string t => some (completed (comparison field op (.text t)) s.contexts)
    | .keyword .true _ => some (completed (comparison field op (.bool true)) s.contexts)
    | .keyword .false _ => some (completed (comparison field op (.bool false)) s.contexts)
    | .keyword .null _ => some (completed (comparison field op .none) s.contexts)
    | .sign .minus => some ⟨s.contexts, .negative field op⟩
    | _ => none
  | .negative field op =>
    match w with
    | .integer n => some (completed (comparison field op (.int (-n))) s.contexts)
    | .float x => some (completed (comparison field op (.float x.neg)) s.contexts)
    | _ => none
  | .nullness field =>
    match w with
    | .keyword .null _ => some (completed (.nullCheck field true) s.contexts)
    | .keyword .not _ => some ⟨s.contexts, .notNull field⟩
    | _ => none
  | .notNull field =>
    match w with
    | .keyword .null _ => some (completed (.nullCheck field false) s.contexts)
    | _ => none
  | .complete c => afterCondition? c s.contexts w

def result? (s : ParseState) : Option (Condition Value) :=
  let s :=
    match s.stage with
    | .field name => completed (.isTrue name) s.contexts
    | _ => s
  match s.stage with
  | .complete c =>
    match disjoined c s.contexts with
    | (c, []) => some c
    | _ => none
  | _ => none

def takeAll (s : ParseState) : List Token → Except SyntaxFault ParseState
  | [] => .ok s
  | token :: rest =>
    match s.next? token.word with
    | some s => s.takeAll rest
    | none => .error (.unexpected token)

end ParseState

namespace Condition

/-- The condition that words write, if there is no fault in the text after them. -/
def ofTokens (tokens : List Token) (fault : Option SyntaxFault) :
    Except SyntaxFault (Condition Value) := do
  let s ← ParseState.start.takeAll tokens
  match fault with
  | some fault => .error fault
  | none =>
    match s.result? with
    | some c => .ok c
    | none => .error .unexpectedEnd

def ofText (t : Text) : Except SyntaxFault (Condition Value) :=
  let (tokens, fault) := Token.scan t
  ofTokens tokens fault

end Condition

inductive PredicateFault where
  | empty
  /-- The text is no condition. -/
  | malformed (text : Text) (fault : SyntaxFault)
  deriving DecidableEq, Repr

/-- What is told of a predicate that is refused. A literal that can't be converted is told as it
is. -/
def PredicateFault.report : PredicateFault → Report
  | empty => .error .predicateSyntax "Predicate text can't be empty." none
  | malformed _ (.unreadable b) => .silent b
  | malformed t fault =>
    .error .predicateSyntax ("Invalid predicate " ++ Text.quoted t ++ ": " ++ fault.report.embedded) none

def Condition.ofPredicate (t : Text) : Except PredicateFault (Condition Value) :=
  if t.all CodePoint.isBlank then .error .empty
  else
    match Condition.ofText t with
    | .ok c => .ok c
    | .error fault => .error (.malformed t fault)

end SealedRows
