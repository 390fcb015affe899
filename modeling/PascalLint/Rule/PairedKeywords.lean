import PascalLint.Line

/-! # Paired keywords

A line that begins with `if`, `for`, `while` or `case` is to have the keyword's partner, text
between the two, and a body behind the partner: some text, and for `case` a colon. The header of a
`for` loop is to have an assignment. If the header of a `for` loop is empty, its body is not looked
at.
-/

namespace PascalLint

/-- The keywords that have a partner. -/
inductive Opener
  | ifOpener
  | forOpener
  | whileOpener
  | caseOpener
deriving DecidableEq, Repr

namespace Opener

/-- The opener that a keyword is. -/
def ofKeyword? : Keyword → Option Opener
  | .reserved .ifWord => some ifOpener
  | .reserved .forWord => some forOpener
  | .reserved .whileWord => some whileOpener
  | .reserved .caseWord => some caseOpener
  | _ => none

/-- The partner of an opener. -/
def partner : Opener → Reserved
  | ifOpener => .thenWord
  | forOpener | whileOpener => .doWord
  | caseOpener => .ofWord

/-- The defect of an opener without its partner. -/
def missing : Opener → Defect
  | ifOpener => .missingThen
  | forOpener | whileOpener => .missingDo
  | caseOpener => .missingOf

end Opener

namespace Rule.PairedKeywords

/-- The first word from a column on that is the partner of an opener. -/
def partner? (line : Line) (opener : Opener) (start : Nat) : Option Word :=
  line.words.find? fun word =>
    start ≤ word.start && word.keyword? == some (.reserved opener.partner)

/-- The diagnostics for the header between an opener, which ends at column `stop`, and its
    partner. -/
def checkHeader (line : Line) (opener : Opener) (stop : Nat) (partner : Word) :
    List Diagnostic :=
  let header := line.slice stop partner.start
  if Text.isBlank header then [line.diagnostic .emptyCondition stop]
  else if opener = .forOpener && !Text.contains [':', '='] header then
    [line.diagnostic .headerWithoutAssignment stop]
  else []

/-- Holds if a body follows the partner. -/
def hasBody (line : Line) (opener : Opener) (partner : Word) : Bool :=
  let body := line.masked.drop partner.stop
  if opener = .caseOpener then Text.contains [':'] body else !Text.isBlank body

/-- The diagnostics for what follows the partner of an opener that ends at column `stop`. -/
def checkBody (line : Line) (opener : Opener) (stop : Nat) (partner : Word) : List Diagnostic :=
  if opener = .forOpener && Text.isBlank (line.slice stop partner.start) then []
  else if hasBody line opener partner then []
  else [line.diagnostic .emptyBody partner.stop]

/-- The diagnostics for a line that begins with an opener, which ends at column `stop`. -/
def checkOpener (line : Line) (opener : Opener) (stop : Nat) : List Diagnostic :=
  match partner? line opener stop with
  | none => [line.diagnostic opener.missing stop]
  | some partner => checkHeader line opener stop partner ++ checkBody line opener stop partner

/-- The diagnostics for a line. -/
def check (line : Line) : List Diagnostic :=
  match line.leadingWord? with
  | none => []
  | some word =>
    match word.keyword?.bind Opener.ofKeyword? with
    | none => []
    | some opener => checkOpener line opener word.stop

end Rule.PairedKeywords

end PascalLint
