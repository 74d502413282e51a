set_option autoImplicit false

namespace Chip8.Text

def lineEnds : List Char :=
  ['\n', '\x0b', '\x0c', '\r', '\x1c', '\x1d', '\x1e', '\x85', '\u2028', '\u2029']

def isLineEnd (c : Char) : Bool := lineEnds.contains c

def consLine (c : Char) : List (List Char) → List (List Char)
  | [] => [[c]]
  | line :: rest => (c :: line) :: rest

def splitLines : List Char → List (List Char)
  | [] => []
  | '\r' :: '\n' :: rest => [] :: splitLines rest
  | c :: rest => if isLineEnd c then [] :: splitLines rest else consLine c (splitLines rest)

theorem mem_cons_line {c : Char} {lines : List (List Char)} {line : List Char}
    (member : line ∈ consLine c lines) : line ∈ lines ∨ ∀ d ∈ line, d = c ∨ ∃ l ∈ lines, d ∈ l := by
  cases lines with
  | nil =>
      have only : line = [c] := by simpa [consLine] using member
      subst only
      exact Or.inr fun d hd => Or.inl (by simpa using hd)
  | cons first rest =>
      rcases List.mem_cons.mp member with same | later
      · subst same
        refine Or.inr fun d hd => ?_
        rcases List.mem_cons.mp hd with head | tail
        · exact Or.inl head
        · exact Or.inr ⟨first, List.mem_cons_self, tail⟩
      · exact Or.inl (List.mem_cons_of_mem first later)

theorem split_lines_clean (text : List Char) :
    ∀ line ∈ splitLines text, ∀ c ∈ line, isLineEnd c = false := by
  fun_induction splitLines text with
  | case1 => intro line member; cases member
  | case2 rest ih =>
      intro line member
      rcases List.mem_cons.mp member with same | later
      · subst same
        intro c hc
        cases hc
      · exact ih line later
  | case3 c rest _ ends ih =>
      intro line member
      rcases List.mem_cons.mp member with same | later
      · subst same
        intro d hd
        cases hd
      · exact ih line later
  | case4 c rest _ inner ih =>
      intro line member d hd
      rcases mem_cons_line member with old | parts
      · exact ih line old d hd
      · rcases parts d hd with same | ⟨l, hl, hd'⟩
        · subst same
          simpa using inner
        · exact ih l hl d hd'

def printedLines (text : String) : List String :=
  match splitLines text.toList with
  | [] => [""]
  | lines => lines.map String.ofList

end Chip8.Text
