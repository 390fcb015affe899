import PascalLint.Unicode.CaseFolding

/-! # Reserved words

A dialect says which words are reserved: the standard dialect has eleven, the extended one adds
the words of the `while` loop and of the bounds of a `for` loop. A name is looked up by its case
folding, so it is reserved if it differs from a reserved word in letter case only.
-/

namespace PascalLint

/-- A set of reserved words. -/
inductive Dialect
  | standard
  | extended
deriving DecidableEq, Repr

namespace Dialect

/-- The name of a dialect in settings and on the command line. -/
def name : Dialect → String
  | standard => "standard"
  | extended => "extended"

/-- The dialect with the given name. -/
def ofName? (text : String) : Option Dialect :=
  [standard, extended].find? (·.name == text)

end Dialect

/-- The words that some dialect reserves. -/
inductive Reserved
  | programWord
  | constWord
  | varWord
  | beginWord
  | endWord
  | forWord
  | caseWord
  | ofWord
  | ifWord
  | thenWord
  | elseWord
  | whileWord
  | doWord
  | toWord
  | downtoWord
deriving DecidableEq, Repr

namespace Reserved

/-- All reserved words. -/
def all : List Reserved :=
  [programWord, constWord, varWord, beginWord, endWord, forWord, caseWord, ofWord, ifWord,
   thenWord, elseWord, whileWord, doWord, toWord, downtoWord]

/-- The word in small letters. -/
def spelling : Reserved → List Char
  | programWord => ['p', 'r', 'o', 'g', 'r', 'a', 'm']
  | constWord => ['c', 'o', 'n', 's', 't']
  | varWord => ['v', 'a', 'r']
  | beginWord => ['b', 'e', 'g', 'i', 'n']
  | endWord => ['e', 'n', 'd']
  | forWord => ['f', 'o', 'r']
  | caseWord => ['c', 'a', 's', 'e']
  | ofWord => ['o', 'f']
  | ifWord => ['i', 'f']
  | thenWord => ['t', 'h', 'e', 'n']
  | elseWord => ['e', 'l', 's', 'e']
  | whileWord => ['w', 'h', 'i', 'l', 'e']
  | doWord => ['d', 'o']
  | toWord => ['t', 'o']
  | downtoWord => ['d', 'o', 'w', 'n', 't', 'o']

/-- The word as text. -/
def name (word : Reserved) : String :=
  String.ofList word.spelling

/-- The number of the word in token listings. -/
def code : Reserved → Nat
  | programWord => 122
  | constWord => 116
  | varWord => 105
  | beginWord => 113
  | endWord => 104
  | forWord => 109
  | caseWord => 31
  | ofWord => 101
  | ifWord => 56
  | thenWord => 52
  | elseWord => 32
  | whileWord => 114
  | doWord => 54
  | toWord => 103
  | downtoWord => 118

/-- Holds of the words that only the extended dialect reserves. -/
def isExtension : Reserved → Bool
  | whileWord | doWord | toWord | downtoWord => true
  | _ => false

theorem mem_all (word : Reserved) : word ∈ all := by
  cases word <;> decide

theorem spelling_injective {v w : Reserved} (same : v.spelling = w.spelling) : v = w := by
  cases v <;> cases w <;> first | rfl | exact absurd same (by decide)

end Reserved

/-- Holds if the dialect reserves the word. -/
def Dialect.reserves : Dialect → Reserved → Bool
  | .standard, word => !word.isExtension
  | .extended, _ => true

/-- The word of the dialect that a name spells, in whatever letter case. -/
def Reserved.lookup? (dialect : Dialect) (name : List Char) : Option Reserved :=
  all.find? fun word => dialect.reserves word && word.spelling == Unicode.foldCaseText name

theorem Reserved.lookup?_eq_some_iff {dialect : Dialect} {name : List Char} {word : Reserved} :
    lookup? dialect name = some word ↔
      dialect.reserves word = true ∧ Unicode.foldCaseText name = word.spelling := by
  constructor
  · intro found
    unfold lookup? at found
    have holds := List.find?_some found
    simp only [Bool.and_eq_true, beq_iff_eq] at holds
    exact ⟨holds.1, holds.2.symm⟩
  · rintro ⟨reserved, spelled⟩
    cases found : lookup? dialect name with
    | none =>
      unfold lookup? at found
      have absent := List.find?_eq_none.mp found word (mem_all word)
      simp [reserved, spelled] at absent
    | some other =>
      unfold lookup? at found
      have holds := List.find?_some found
      simp only [Bool.and_eq_true, beq_iff_eq] at holds
      rw [spelling_injective (holds.2.trans spelled)]

end PascalLint
