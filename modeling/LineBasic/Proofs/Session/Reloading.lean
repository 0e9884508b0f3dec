import Mathlib
import LineBasic.CommandLine.Load
import LineBasic.Proofs.Session.History

/-!
Loading a listing. A line that was stored is listed as its number, one blank and its
text, and typing that stores it again (`Edits.listed`), whatever zeros and blanks it was
typed with. So a program is had back from the lines of its listing, in any order
(`Typed.listing_reloads`).
-/
namespace LineBasic

namespace Session

variable {text : List Char} {number : Int} {statement : Statement}

/-- A line of a program, as it is listed. -/
def listed (line : Int × Statement) : String := Decimal.write line.1 ++ " " ++ line.2.source

/-! ### One line -/

theorem writesNumber_toDigits {n : Nat} (positive : 1 ≤ n) (inside : (n : Int) ≤ Word.highest) :
    WritesNumber (Nat.toDigits 10 n) n := by
  obtain ⟨short, value, _⟩ := lineNumber_eq_ok_iff.1 (lineNumber_toDigits positive inside)
  exact ⟨fun c => Decimal.isDigit_of_mem_toDigits, short, value, by omega, inside⟩

/-- What an edit stores has no blanks at its end if the text has none. -/
theorem Edits.listed (edits : Edits text number (some statement)) (last : ∀ c ∈ text.getLast?, Text.isBlank c = false) :
    Edits (Text.trimmed (Session.listed (number, statement)).toList) number (some statement) := by
  cases edits with
  | @storage digits blanks body _ keyword writes parted blank shows checked starts =>
    have filled : body ≠ [] := by
      rintro rfl
      revert checked
      decide +kernel
    have positive := writes.positive
    obtain ⟨n, rfl⟩ := Int.eq_ofNat_of_zero_le (by omega : 0 ≤ number)
    have trimmed : Text.trimmed (String.ofList body).toList = body := by
      rw [String.toList_ofList]
      have ends : ∀ c ∈ body.getLast?, Text.isBlank c = false := by
        rwa [← List.append_assoc, List.getLast?_append_of_ne_nil _ filled] at last
      have whole := @Text.trimmed_append [] body [] (by simp) (by simp) shows ends
      rwa [List.nil_append, List.append_nil] at whole
    obtain ⟨blanks', parted', blank', shown⟩ := trimmed_numbered n (by rwa [trimmed])
    rw [Session.listed, shown, trimmed]
    exact .storage (writesNumber_toDigits (by omega) writes.inside) parted' blank' shows checked starts

theorem Typed.edits_listed {lines : List String} {session : Session} (typed : Typed lines session)
    (stored : (number, statement) ∈ session.program.lines) :
    Edits (Text.trimmed (listed (number, statement)).toList) number (some statement) := by
  obtain ⟨_, line, _, _, edits, _⟩ := (typed.mem_lines_iff number statement).1 stored
  exact edits.listed (Text.getLast?_trimmed line.toList)

/-! ### All lines -/

/-- Lines that can be stored again are put into the program one after another. -/
theorem processAll_listed {placed : List (Int × Statement)}
    (edits : ∀ line ∈ placed, Edits (Text.trimmed (listed line).toList) line.1 (some line.2)) (verbose : Bool)
    (session : Session) :
    ∃ noted, CommandLine.processAll verbose (placed.map listed) session = .ok true { session with
      program := { session.program with
        lines := placed.foldl (fun lines line => Program.place line.1 line.2 lines) session.program.lines }
      noted := noted } := by
  induction placed generalizing session with
  | nil => exact ⟨session.noted, rfl⟩
  | cons line later ih =>
    obtain ⟨first, rest⟩ := List.forall_mem_cons.1 edits
    obtain ⟨noted, stored⟩ := process_of_edits first verbose session
    obtain ⟨noted', loaded⟩ := ih rest { session with
      program := session.program.insert line.1 line.2, noted := noted }
    refine ⟨noted', ?_⟩
    rw [List.map_cons, CommandLine.processAll, Step.bind_apply, stored]
    exact loaded

/-- However a program was typed, its listing can be typed to a new session, in any order.
    Nothing is written, and the new session has the same program, with the same listing. -/
theorem Typed.listing_reloads {lines order : List String} {session : Session} (typed : Typed lines session)
    (same : order.Perm (listing session.program)) (verbose : Bool) (console : Console) (budget : Nat) :
    ∃ after, CommandLine.processAll verbose order { console := console, budget := budget } = .ok true after ∧
      after.console = console ∧ after.program = session.program ∧
      listing after.program = listing session.program := by
  obtain ⟨placed, rfl, stored⟩ : ∃ placed : List (Int × Statement),
      order = placed.map listed ∧ placed.Perm session.program.lines := by
    have parted : Relation.Comp (· = List.map listed ·) List.Perm order session.program.lines := by
      rw [List.eq_map_comp_perm]
      exact same
    exact parted
  have edits : ∀ line ∈ placed, Edits (Text.trimmed (listed line).toList) line.1 (some line.2) :=
    fun line member => typed.edits_listed (stored.mem_iff.1 member)
  obtain ⟨noted, loaded⟩ := processAll_listed edits verbose { console := console, budget := budget }
  have program : (⟨placed.foldl (fun lines line => Program.place line.1 line.2 lines) [], none⟩ : Program) =
      session.program := by
    rw [Program.foldl_place_eq typed.ordered stored, ← typed.reachable.cursor_eq_none]
  exact ⟨_, loaded, rfl, program, congrArg listing program⟩

/-- Line 7 is listed without its zeros and the blanks around it, and is stored again when
    its listing is typed the other way round. -/
theorem listing_reloads_reversed :
    ∃ session : Session, Typed ["10 GOTO 0007", " 007   PRINT  1 "] session ∧
      listing session.program = ["7 PRINT  1", "10 GOTO 0007"] ∧
      ∃ after, CommandLine.processAll true ["10 GOTO 0007", "7 PRINT  1"] { budget := 0 } = .ok true after ∧
        after.console = {} ∧ listing after.program = ["7 PRINT  1", "10 GOTO 0007"] := by
  have typed := (Typed.fresh {} 9).foldl false ["10 GOTO 0007", " 007   PRINT  1 "]
  have shown : listing (["10 GOTO 0007", " 007   PRINT  1 "].foldl
      (fun session line => (Shell.process false line).reached session) { budget := 9 }).program =
      ["7 PRINT  1", "10 GOTO 0007"] := by decide +kernel
  have reversed : ["10 GOTO 0007", "7 PRINT  1"].Perm (listing (["10 GOTO 0007", " 007   PRINT  1 "].foldl
      (fun session line => (Shell.process false line).reached session) { budget := 9 }).program) := by
    rw [shown]
    exact List.Perm.swap _ _ []
  obtain ⟨after, loaded, quiet, _, listing⟩ := typed.listing_reloads reversed true {} 0
  exact ⟨_, typed, shown, after, loaded, quiet, listing.trans shown⟩

end Session

end LineBasic
