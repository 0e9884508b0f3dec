import Mathlib
import LineBasic.CommandLine.Load
import LineBasic.Proofs.Session.Respelled
import LineBasic.Proofs.Text.Lines

/-!
How a program text is supplied. To load a text is to process its lines, and `RUN` after them
if it is to be run (`load_eq`). So it makes no difference whether the text is given or held
by a file, in which other line ends have become line feeds, nor whether it is to be run or
its last line is `RUN` (`supplied_alike`).
-/
namespace LineBasic.CommandLine

variable {text name : String} {verbose : Bool}

/-! ### Lines in order -/

theorem processAll_append (verbose : Bool) (lines more : List String) :
    processAll verbose (lines ++ more) = (do
      if ← processAll verbose lines then processAll verbose more else return false) := by
  induction lines with
  | nil => rfl
  | cons line later ih =>
    simp only [List.cons_append, processAll, ih, bind_assoc]
    congr 1
    funext onward
    cases onward <;> simp

theorem processAll_cons_blank (verbose : Bool) (lines : List String) :
    processAll verbose ("" :: lines) = processAll verbose lines := rfl

theorem processAll_singleton (verbose : Bool) (line : String) :
    processAll verbose [line] = Shell.process verbose line := by
  have same : (fun onward : Bool => if onward then processAll verbose [] else return false) = pure := by
    funext onward
    cases onward <;> rfl
  rw [processAll, same, bind_pure]

/-- The lines that are processed are those of the text and, if it is to be run, `RUN`. -/
theorem load_eq (text : String) (run verbose : Bool) :
    load text run verbose = (do
      Session.note .info .commandLine ("Loading " ++ Decimal.write (Text.splitLines text).length ++ " lines")
      let _ ← processAll verbose (Text.splitLines text ++ if run then [Command.run.word] else [])
      return ()) := by
  unfold load
  cases run with
  | true =>
    simp only [↓reduceIte, processAll_append, processAll_singleton, bind_assoc]
    congr 1
    funext _
    congr 1
    funext onward
    cases onward <;> rfl
  | false => simp

/-- Where sessions differ in their logs only, lines are processed alike. -/
theorem agree_processAll (verbose : Bool) (lines : List String) :
    Step.Agree Session.SameButLog Session.SameButLog Session.SameButLog (processAll verbose lines)
      (processAll verbose lines) := by
  induction lines with
  | nil => exact Step.agree_pure true fun _ _ same => same
  | cons line later ih =>
    refine (Session.likeness_sameButLog.process verbose line).always.bind fun onward => ?_
    cases onward with
    | true => exact ih
    | false => exact Step.agree_pure false fun _ _ same => same

/-! ### A text in a file -/

theorem fileText_toUTF8 (text : String) :
    fileText text.toUTF8 = .ok (String.ofList (Text.withLineFeeds text.toList)) := by
  have read : String.fromUTF8? text.toUTF8 = some text := dif_pos text.isValidUTF8
  unfold fileText
  rw [read]

theorem loadSource_file (named : isProgramFile name = true) (nameable : Char.ofNat 0 ∉ name.toList) (run : Bool)
    (contents : Except FileFault ByteArray) :
    loadSource name false run verbose (.ok text.toUTF8) = loadSource text true run verbose contents := by
  have held : programText name false (.ok text.toUTF8) = .ok (String.ofList (Text.withLineFeeds text.toList)) := by
    have allowed : name.toList.contains (Char.ofNat 0) = false := by simpa using nameable
    unfold programText
    rw [if_neg Bool.false_ne_true, named, allowed]
    exact fileText_toUTF8 text
  unfold loadSource
  rw [held, Step.ofExcept_ok_bind, load_eq, Text.splitLines_withLineFeeds, ← load_eq]
  rfl

/-! ### A text that ends in a command -/

/-- A line feed before the word may start an empty line, which is passed over. -/
theorem processAll_followed (text : String) (verbose : Bool) :
    processAll verbose (Text.splitLines (text ++ "\nRUN")) =
      processAll verbose (Text.splitLines text ++ [Command.run.word]) := by
  have shown : (text ++ "\nRUN").toList = text.toList ++ '\n' :: Command.run.word.toList := String.toList_append
  have last : (Text.linesOf Text.isBreak Command.run.word.toList).map String.ofList = [Command.run.word] := by
    decide +kernel
  unfold Text.splitLines
  rw [shown]
  rcases Text.linesOf_append_line_feed text.toList Command.run.word.toList with same | same
  · rw [same, List.map_append, last]
  · have blank : String.ofList [] = "" := rfl
    rw [same, List.map_append, List.map_cons, last, blank, processAll_append, processAll_cons_blank, ← processAll_append]

theorem loadSource_followed (text : String) (verbose : Bool) (contents contents' : Except FileFault ByteArray) :
    Step.Agree Session.SameButLog Session.SameButLog Session.SameButLog (loadSource text true true verbose contents)
      (loadSource (text ++ "\nRUN") true false verbose contents') := by
  have loads := load_eq (text ++ "\nRUN") false verbose
  rw [if_neg Bool.false_ne_true, List.append_nil, processAll_followed] at loads
  change Step.Agree _ _ _ (load text true verbose) (load (text ++ "\nRUN") false verbose)
  rw [load_eq, loads, if_pos rfl]
  refine (Session.likeness_sameButLog.note _ _ _ _).always.bind fun _ => ?_
  exact (agree_processAll verbose _).bind fun _ => Step.agree_pure () fun _ _ same => same

/-- A program file that holds a text is loaded as the text itself is. A text that is loaded
    and run does the same as with `RUN` in a line after it, but for how many lines the log
    says there are. -/
theorem supplied_alike (text : String) (verbose : Bool) :
    (∀ name, isProgramFile name = true → Char.ofNat 0 ∉ name.toList → ∀ run contents,
        loadSource name false run verbose (.ok text.toUTF8) = loadSource text true run verbose contents) ∧
      ∀ contents contents' session,
        let ran := (loadSource text true true verbose contents).outcome session
        let followed := (loadSource (text ++ "\nRUN") true false verbose contents').outcome session
        ran.1 = followed.1 ∧ Session.SameButLog ran.2 followed.2 := by
  refine ⟨fun name named nameable run contents => loadSource_file named nameable run contents, ?_⟩
  intro contents contents' session
  exact (loadSource_followed text verbose contents contents').outcome ⟨rfl, rfl, rfl, rfl⟩

/-- A file whose lines end in carriage returns, in pairs and alone, is loaded and run. -/
theorem supplied_alike_returns :
    isProgramFile "a.bas" = true ∧ Char.ofNat 0 ∉ "a.bas".toList ∧
      ((loadSource "a.bas" false true false (.ok "10 INPUT A\r\r\n20 PRINT A\r".toUTF8)).outcome
        { console := { replies := [.line "7"] }, budget := 9 }).2.console.transcript = [.prompt " ? ", .line "7"] := by
  have named : isProgramFile "a.bas" = true := by decide +kernel
  have nameable : Char.ofNat 0 ∉ "a.bas".toList := by decide +kernel
  refine ⟨named, nameable, ?_⟩
  rw [(supplied_alike "10 INPUT A\r\r\n20 PRINT A\r" false).1 "a.bas" named nameable true (.error .missing)]
  decide +kernel

end LineBasic.CommandLine
