import UserRegistry.Json.Printer

/-!
# Lines of indented JSON

`Json.lines` says line by line how a value stands on the page: a bracket, a scalar or an
empty pair of brackets, behind the key if there is one, and a comma behind every item but
the last.  The printer, which knows of no lines, writes them one after another.
-/

namespace UserRegistry.Json

def indented (depth : Nat) (text : List Char) : List Char :=
  List.replicate (2 * depth) ' ' ++ text

/-- What ends an item that others may follow. -/
def separator {α : Type} (others : List α) : List Char :=
  if others.isEmpty then [] else [',']

mutual

/-- The lines of a value at `depth`; `before` starts the first of them, and `behind`
ends the last. -/
def lines (depth : Nat) (before behind : List Char) : Json → List (List Char)
  | .array (item :: items) =>
    indented depth (before ++ ['[']) :: itemLines (depth + 1) (item :: items)
      ++ [indented depth (']' :: behind)]
  | .object (member :: members) =>
    indented depth (before ++ ['{']) :: memberLines (depth + 1) (member :: members)
      ++ [indented depth ('}' :: behind)]
  | flat => [indented depth (before ++ flat.written .compact 0 ++ behind)]

def itemLines (depth : Nat) : List Json → List (List Char)
  | [] => []
  | item :: items => item.lines depth [] (separator items) ++ itemLines depth items

def memberLines (depth : Nat) : List (String × Json) → List (List Char)
  | [] => []
  | (key, value) :: members =>
    value.lines depth (quoted key.toList ++ [':', ' ']) (separator members)
      ++ memberLines depth members

end

/-- Lines one after another, each with its end. -/
def page (lines : List (List Char)) : List Char :=
  lines.flatMap (· ++ ['\n'])

theorem page_cons (line : List Char) (others : List (List Char)) :
    page (line :: others) = line ++ '\n' :: page others := by
  simp [page]

theorem page_append (first second : List (List Char)) :
    page (first ++ second) = page first ++ page second :=
  List.flatMap_append

theorem page_singleton (line : List Char) : page [line] = line ++ ['\n'] :=
  List.append_nil _

/-- Lines between two brackets that stand on lines of their own. -/
theorem page_enclosed {depth : Nat} {before behind contents : List Char} {left right : Char}
    {inner : List (List Char)} (shown : '\n' :: page inner = contents ++ ['\n']) :
    page (indented depth (before ++ [left]) :: inner ++ [indented depth (right :: behind)]) =
      indented depth
          (before ++ (left :: contents ++ Spacing.pretty.lineBreak depth ++ [right]) ++ behind) ++
        ['\n'] := by
  rw [List.cons_append, page_cons, page_append, page_singleton, ← List.cons_append, shown]
  simp only [indented, Spacing.lineBreak, List.append_assoc, List.cons_append, List.nil_append]

mutual

theorem page_lines (depth : Nat) (before behind : List Char) (value : Json) :
    page (value.lines depth before behind) =
      indented depth (before ++ value.written .pretty depth ++ behind) ++ ['\n'] := by
  cases value with
  | null => exact page_singleton _
  | boolean value => cases value <;> exact page_singleton _
  | integer value => exact page_singleton _
  | float value => exact page_singleton _
  | string text => exact page_singleton _
  | array items =>
      have inner := page_itemLines (depth + 1) items
      cases items with
      | nil => exact page_singleton _
      | cons item items =>
          -- The comma in front of the first item is not written.
          exact page_enclosed (congrArg List.tail inner)
  | object members =>
      have inner := page_memberLines (depth + 1) members
      cases members with
      | nil => exact page_singleton _
      | cons member members =>
          exact page_enclosed (congrArg List.tail inner)

/-- The printer puts comma and line end in front of an item, and not behind the one
before it. -/
theorem page_itemLines (depth : Nat) (items : List Json) :
    separator items ++ '\n' :: page (itemLines depth items) =
      writtenItems .pretty depth items ++ ['\n'] := by
  cases items with
  | nil => rfl
  | cons item items =>
      have first := page_lines depth [] (separator items) item
      have others := page_itemLines depth items
      have both : page (itemLines depth (item :: items)) =
          indented depth (item.written .pretty depth) ++
            (writtenItems .pretty depth items ++ ['\n']) := by
        rw [itemLines, page_append, first, ← others]
        simp only [indented, List.append_assoc, List.nil_append, List.cons_append]
      rw [both]
      simp [separator, writtenItems, indented, Spacing.lineBreak]

theorem page_memberLines (depth : Nat) (members : List (String × Json)) :
    separator members ++ '\n' :: page (memberLines depth members) =
      writtenMembers .pretty depth members ++ ['\n'] := by
  cases members with
  | nil => rfl
  | cons member members =>
      obtain ⟨key, value⟩ := member
      have first := page_lines depth (quoted key.toList ++ [':', ' ']) (separator members) value
      have others := page_memberLines depth members
      have both : page (memberLines depth ((key, value) :: members)) =
          indented depth (quoted key.toList ++ [':', ' '] ++ value.written .pretty depth) ++
            (writtenMembers .pretty depth members ++ ['\n']) := by
        rw [memberLines, page_append, first, ← others]
        simp only [indented, List.append_assoc, List.nil_append, List.cons_append]
      rw [both]
      simp [separator, writtenMembers, indented, Spacing.lineBreak, Spacing.colon]

end

/-- The pretty text of a value, with a line end behind it, is the page of its lines. -/
theorem pretty_page (value : Json) :
    value.pretty ++ "\n" = String.ofList (page (value.lines 0 [] [])) := by
  rw [page_lines, pretty, String.ofList_append]
  simp [indented]

end UserRegistry.Json
