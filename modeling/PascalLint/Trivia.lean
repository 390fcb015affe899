import PascalLint.Cursor
import PascalLint.Unicode.WhiteSpace

/-! # Trivia

What stands between tokens: white space, line ends, and comments in their three forms. A comment
in braces and one in parentheses with stars run across line ends up to the first terminator after
the opener, or to the end of the input if there is none; a comment after two slashes runs up to
the end of its line. Comments do not nest, and the star of an opener is not part of a terminator.

Each form is given by the number of glyphs that it takes up at the front of a stream.
-/

namespace PascalLint.Trivia

open PascalLint.Unicode (isWhiteSpace)

/-- The number of glyphs up to and including the first right brace. -/
def throughBrace : List Glyph → Nat
  | [] => 0
  | .char '}' :: _ => 1
  | _ :: rest => throughBrace rest + 1

/-- The number of glyphs up to and including the first star with a right parenthesis after it. -/
def throughStarParen : List Glyph → Nat
  | [] => 0
  | .char '*' :: .char ')' :: _ => 2
  | _ :: rest => throughStarParen rest + 1

/-- The number of glyphs that the comment at the front takes up, zero if there is none. -/
def commentSize : List Glyph → Nat
  | .char '{' :: rest => throughBrace rest + 1
  | .char '(' :: .char '*' :: rest => throughStarParen rest + 2
  | .char '/' :: .char '/' :: rest => (Glyph.lineText rest).length + 2
  | _ => 0

/-- The number of glyphs before the next token. -/
def size : List Glyph → Nat
  | [] => 0
  | .lineEnd :: rest => size rest + 1
  | .char c :: rest =>
    if isWhiteSpace c then size rest + 1
    else match commentSize (.char c :: rest) with
      | 0 => 0
      | comment + 1 => size (rest.drop comment) + comment + 1
termination_by glyphs => glyphs.length

@[simp]
theorem size_nil : size [] = 0 := by
  simp [size]

@[simp]
theorem size_lineEnd (rest : List Glyph) : size (.lineEnd :: rest) = size rest + 1 := by
  simp [size]

/-- What follows the trivia is a token character or the end of the input, never a line end. -/
theorem drop_size_ne_lineEnd (glyphs rest : List Glyph) :
    glyphs.drop (size glyphs) ≠ .lineEnd :: rest := by
  fun_induction size glyphs with
  | case1 => simp
  | case2 below ih => simpa using ih
  | case3 c below white ih => simpa using ih
  | case4 c below white none => simp
  | case5 c below white comment found ih =>
    rw [List.drop_drop, Nat.add_comm] at ih
    rwa [List.drop_succ_cons]

end PascalLint.Trivia
