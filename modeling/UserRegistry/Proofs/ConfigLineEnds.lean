import UserRegistry.Config.Loading
import UserRegistry.Proofs.DocumentFuel
import UserRegistry.Proofs.Outcomes
import UserRegistry.Proofs.TomlDocument

/-!
# Configurations and line ends

A configuration is the same however the line ends of its text are spelled, and whether
or not the text starts with a byte order mark.  That holds wherever a line end stands,
since a text is read as well with its line ends as they are written: none of the
readers takes the two spellings for different things, and none of them keeps a
carriage return.
-/

namespace UserRegistry

namespace Toml

section Spellings

variable {text : List Char}

/-- A text with a carriage return in front of every line feed. -/
def withReturns (text : List Char) : List Char :=
  text.flatMap fun c => if c = '\n' then ['\r', '\n'] else [c]

theorem withReturns_cons {c : Char} (noLineFeed : c ≠ '\n') (rest : List Char) :
    withReturns (c :: rest) = c :: withReturns rest := by
  rw [withReturns, List.flatMap_cons, if_neg noLineFeed]
  rfl

/-- Without other carriage returns, no line end is left over or made up. -/
theorem unifyLineEnds_withReturns (noReturn : '\r' ∉ text) :
    unifyLineEnds (withReturns text) = text := by
  induction text with
  | nil => rfl
  | cons c rest induction =>
      have unified := induction (List.not_mem_of_not_mem_cons noReturn)
      by_cases lineFeed : c = '\n'
      · subst lineFeed
        exact (unifyLineEnds_pair (withReturns rest)).trans (congrArg _ unified)
      · have isNoReturn : c ≠ '\r' := by
          rintro rfl
          exact noReturn List.mem_cons_self
        rw [withReturns_cons lineFeed, unifyLineEnds_cons isNoReturn, unified]

theorem head?_withReturns (noMark : text.head? ≠ some '\ufeff') :
    (withReturns text).head? ≠ some '\ufeff' := by
  cases text with
  | nil => exact noMark
  | cons c rest =>
      by_cases lineFeed : c = '\n'
      · subst lineFeed
        exact fun first => absurd (Option.some.inj first) (by decide)
      · rw [withReturns_cons lineFeed]
        exact noMark

theorem dropByteOrderMark_withReturns (text : List Char) :
    dropByteOrderMark (withReturns text) = withReturns (dropByteOrderMark text) := by
  by_cases mark : text.head? = some '\ufeff'
  · obtain ⟨rest, rfl⟩ := List.head?_eq_some_iff.mp mark
    rw [withReturns_cons (by decide)]
    rfl
  · rw [dropByteOrderMark_of_noMark mark, dropByteOrderMark_of_noMark (head?_withReturns mark)]

theorem document?_withReturns (noReturn : '\r' ∉ text) :
    document? (withReturns text) = document? text := by
  have free : '\r' ∉ dropByteOrderMark text := by
    unfold dropByteOrderMark
    split
    · exact List.not_mem_of_not_mem_cons noReturn
    · exact noReturn
  rw [document?, document?, dropByteOrderMark_withReturns, unifyLineEnds_withReturns free,
    unifyLineEnds_of_noReturn free]

theorem document?_mark (noMark : text.head? ≠ some '\ufeff') :
    document? ('\ufeff' :: text) = document? text := by
  have dropped : dropByteOrderMark ('\ufeff' :: text) = text := rfl
  rw [document?, document?, dropped, dropByteOrderMark_of_noMark noMark]

end Spellings

def withReturnsIn (text : String) : String :=
  .ofList (withReturns text.toList)

def withMark (text : String) : String :=
  .ofList ('\ufeff' :: text.toList)

end Toml

namespace Config

theorem parse_congr {text other : String} (same : Toml.parse? text = Toml.parse? other) :
    parse text = parse other := by
  rw [parse, parse, same]

/-- A configuration, or the error that stands for it, is the same with either spelling of
the line ends and with a byte order mark, and every text is read as it is written. -/
theorem line_ends_are_immaterial (text : String) (noReturn : '\r' ∉ text.toList) :
    parse (Toml.withReturnsIn text) = parse text ∧
    (text.toList.head? ≠ some '\ufeff' →
      parse (Toml.withMark text) = parse text ∧
      parse (Toml.withMark (Toml.withReturnsIn text)) = parse text) ∧
    ∀ written : String, Toml.parse? written = Toml.AsWritten.document? written.toList := by
  have respelled : Toml.parse? (Toml.withReturnsIn text) = Toml.parse? text := by
    rw [Toml.parse?, Toml.withReturnsIn, String.toList_ofList,
      Toml.document?_withReturns noReturn, Toml.parse?]
  have marked : ∀ text : String, text.toList.head? ≠ some '\ufeff' →
      Toml.parse? (Toml.withMark text) = Toml.parse? text := by
    intro text noMark
    rw [Toml.parse?, Toml.withMark, String.toList_ofList, Toml.document?_mark noMark,
      Toml.parse?]
  refine ⟨parse_congr respelled, fun noMark => ?_, fun written => ?_⟩
  · have stillNone : (Toml.withReturnsIn text).toList.head? ≠ some '\ufeff' := by
      rw [Toml.withReturnsIn, String.toList_ofList]
      exact Toml.head?_withReturns noMark
    exact ⟨parse_congr (marked text noMark),
      parse_congr ((marked _ stillNone).trans respelled)⟩
  · exact Toml.document?_eq_asWritten written.toList

/-- A text with a line end at each place where one may stand. -/
def manyLines : String :=
  "# both spellings\n\n[logging]\nlevel = \"\"\"\nin\\ \n\n  fo\"\"\" # trimmed\n" ++
  "[[users]]\nusername = '''\nAda\nKing'''\nemail = ''\nroles = [ # none\n\n 'a',\n]\n"

theorem line_ends_are_immaterial_in_manyLines :
    ∃ config, parse manyLines = .ok config ∧
      parse (Toml.withReturnsIn manyLines) = .ok config ∧
      parse (Toml.withMark (Toml.withReturnsIn manyLines)) = .ok config ∧
      config.logging.level = "info" ∧ config.users.map Seed.username = ["Ada\nKing"] ∧
      (Toml.AsWritten.document? (Toml.withReturnsIn manyLines).toList).isSome = true := by
  have noReturn : '\r' ∉ manyLines.toList := by decide +kernel
  have noMark : manyLines.toList.head? ≠ some '\ufeff' := by decide +kernel
  obtain ⟨respelled, marked, asWritten⟩ := line_ends_are_immaterial manyLines noReturn
  have told : (parse manyLines).map (fun config =>
      (config.logging.level, config.users.map Seed.username)) = .ok ("info", ["Ada\nKing"]) := by
    decide +kernel
  obtain ⟨config, parsed, settings⟩ := map_eq_ok_iff.mp told
  have both := Prod.mk.inj settings
  refine ⟨config, parsed, respelled.trans parsed, (marked noMark).2.trans parsed, both.1,
    both.2, ?_⟩
  rw [← asWritten]
  decide +kernel

end Config

end UserRegistry
