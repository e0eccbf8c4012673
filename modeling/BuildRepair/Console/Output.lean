import BuildRepair.Console.Layout
import BuildRepair.Console.Markup
import BuildRepair.Json.Value
import BuildRepair.Text.Half

/-
  What a command prints and what is seen of it. Texts and table cells may hold markup, and a text
  with wrong markup or with halves of characters cannot be shown at all; then the program stops.
-/

namespace BuildRepair.Console

/-- Something that a command prints. -/
inductive Output where
  | text (s : String)
  | table (title : String) (header : List String) (rows : List (List String))
  | document (j : Json)

/-- A line that is seen. -/
inductive Seen where
  | line (s : String)
  /-- The cells of one line of a table row. -/
  | row (cells : List String)
  | document (j : Json)

/-- Control characters that are not printed. -/
def isUnprinted (c : Char) : Bool :=
  c.toNat == 7 || c.toNat == 8 || c.toNat == 11 || c.toNat == 12 || c.toNat == 13

/-- What is shown of a text before it is laid out. -/
def shownText (s : String) : Option (List Char) :=
  ((shown s.toList).filter (!·.any Text.isHalf)).map (·.filter (!isUnprinted ·))

/-- The lines that are seen of a text, without the blanks around them. -/
def seenLines (o : Overflow) (width : Nat) (s : List Char) : List String :=
  (layOut o width s).map String.ofList

/-- The lines of a table row whose cells have several lines; shorter cells are filled up. -/
def rowLines (cells : List (List String)) : List Seen :=
  let height := (cells.map (·.length)).foldl max 0
  (List.range height).map fun n => .row (cells.map fun lines => (lines[n]?).getD "")

/-- What is seen of one output. -/
def Output.seen : Output → Option (List Seen)
  | .document j => if j.texts.any Text.holdsHalf then none else some [.document j]
  | .text s => (shownText s).map fun s =>
    ((seenLines .fold screenWidth s).filter (· != "")).map .line
  | .table title header rows =>
    match (header :: rows).mapM fun row => row.mapM shownText with
    | none => none
    | some rows =>
      let widths := columnWidths rows
      some (.line title :: rows.flatMap fun row =>
        rowLines ((row.zip widths).map fun (s, w) => seenLines .ellipsis (w - cellMargin) s))

/-- What is seen of a list of outputs, up to the first one that cannot be shown, and whether there
was one. -/
def seenAll : List Output → List Seen × Bool
  | [] => ([], false)
  | o :: os =>
    match o.seen with
    | none => ([], true)
    | some lines =>
      let (more, stopped) := seenAll os
      (lines ++ more, stopped)

end BuildRepair.Console
