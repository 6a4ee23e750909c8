import CommandLine.Proofs.Token.Guarded
import Mathlib.Control.Monad.Basic
import Mathlib.Logic.Function.Iterate

/-!
# Progress of scanners

A scanner always stands at a boundary of its source, where it cuts nothing that it cannot cut.
Each token takes it further, to the end of the token, and behind its last answer it has no other.
So a scanner has at most as many answers left as there are bytes behind it.  A scanner may be
copied between two steps, and each of the copies is as safe as the first: `safe_of_copies`.
-/

set_option autoImplicit false

namespace CommandLine

open Text (bytes Boundary RestAt)

/-- The answers of a scanner before its end, an error counted as one. -/
def Lexed.items (lexed : Lexed) : List (Except LexError Token) :=
  lexed.tokens.map .ok ++ lexed.error?.toList.map .error

namespace Scanner

variable {scanner after : Scanner} {item : Option (Except LexError Token)}

/-! ## One step -/

theorem Step.source_eq (step : scanner.Step item after) : after.source = scanner.source := by
  cases step <;> rfl

theorem Step.finished_or_token (step : scanner.Step item after) :
    after.finished = true ∨ ∃ token, item = some (.ok token) := by
  cases step with
  | done finished => exact .inl finished
  | ended unfinished blank => exact .inl rfl
  | token unfinished skipped read => exact .inr ⟨_, rfl⟩
  | failed unfinished skipped read => exact .inl rfl

theorem Step.advances {token : Token} (step : scanner.Step (some (.ok token)) after) :
    after.position = token.span.stop ∧ 0 < token.span.length ∧
      scanner.position ≤ token.span.position := by
  cases step with
  | token unfinished skipped read =>
      have off := (readToken_readOff (isBlank_eq_false_of_skipBlanks skipped) read).1
      have spelled := off.readable.spelling_ne_nil
      rw [off.span]
      refine ⟨rfl, Nat.pos_of_ne_zero ?_, Nat.le_add_right ..⟩
      exact fun zero => spelled ((Text.bytes_eq_zero_iff _).1 zero)

/-- An error takes at least one character that no token has taken. -/
theorem Step.position_lt {error : LexError} (step : scanner.Step (some (.error error)) after)
    (stands : scanner.Stands) : scanner.position < bytes scanner.source.toList := by
  have skip := stands.behindBlanks
  cases step with
  | @failed char rest _ unfinished skipped read =>
      have size := skip.offset_add
      have positive := char.utf8Size_pos
      rw [skipped, Text.bytes_cons, behindBlanks] at size
      omega

/-! ## Any number of steps -/

def steps (scanner : Scanner) (count : Nat) : Scanner :=
  (fun current => current.next.2)^[count] scanner

/-- A machine makes any number of steps from where a scanner stands. -/
theorem Stands.cursor_steps (stands : scanner.Stands) (count : Nat) :
    scanner.cursor.steps count = .ok (scanner.steps count).cursor := by
  induction count generalizing scanner with
  | zero => rfl
  | succ count ih =>
      have step := scanner.step_next
      rw [Cursor.steps, step.cursor_next stands]
      exact ih (step.stands stands)

theorem run_of_no_token (scanner : Scanner) (other : ∀ token, scanner.next.1 ≠ some (.ok token)) :
    scanner.next.2.run = ⟨[], none⟩ := by
  rcases scanner.step_next.finished_or_token with finished | ⟨token, same⟩
  · exact run_of_finished finished
  · exact absurd same (other token)

theorem items_run (scanner : Scanner) :
    scanner.run.items =
      match scanner.next.1 with
      | none => []
      | some (.error error) => [.error error]
      | some (.ok token) => .ok token :: scanner.next.2.run.items := by
  rcases read : scanner.next with ⟨_ | error | token, after⟩
  · rw [run_of_next_eq_none read]
    rfl
  · rw [run_of_next_eq_error read]
    rfl
  · rw [run_of_next_eq_ok read]
    rfl

/-- After some steps, a scanner gives the answer of its run that is next. -/
theorem next_steps (scanner : Scanner) (count : Nat) :
    (scanner.steps count).next.1 = scanner.run.items[count]? := by
  induction count generalizing scanner with
  | zero =>
      rw [items_run, steps, Function.iterate_zero_apply]
      rcases scanner.next.1 with _ | error | token <;> rfl
  | succ count ih =>
      rw [items_run, steps, Function.iterate_succ_apply, ← steps, ih]
      rcases told : scanner.next.1 with _ | error | token
      · rw [run_of_no_token scanner (by simp [told])]
        rfl
      · rw [run_of_no_token scanner (by simp [told])]
        rfl
      · rfl

/-- Each answer takes at least a byte. -/
theorem position_add_items_le (scanner : Scanner) (stands : scanner.Stands) :
    scanner.position + scanner.run.items.length ≤ bytes scanner.source.toList := by
  fun_induction Scanner.run scanner with
  | case1 scanner after read =>
      rw [← RestAt.offset_add stands]
      exact Nat.le_add_right ..
  | case2 scanner error after read =>
      exact (step_of_next read).position_lt stands
  | case3 scanner token after read remaining ih =>
      have step := step_of_next read
      obtain ⟨stop, nonempty, behind⟩ := step.advances
      have left : after.position + remaining.items.length ≤ bytes scanner.source.toList := by
        rw [← step.source_eq]
        exact ih (step.stands stands)
      have forward : token.span.stop = token.span.position + token.span.length := rfl
      have count : (⟨token :: remaining.tokens, remaining.error?⟩ : Lexed).items.length =
          remaining.items.length + 1 := rfl
      rw [count]
      omega

/-! ## Copies -/

/-- Scanners that come from one at the start of a source, by steps and by copies. -/
inductive Copies (quote : Char) (source : String) : List Scanner → Prop
  | start : Copies quote source [ofSource quote source]
  | step {front back : List Scanner} {scanner : Scanner}
      (copies : Copies quote source (front ++ scanner :: back)) :
      Copies quote source (front ++ scanner.next.2 :: back)
  | copy {front back : List Scanner} {scanner : Scanner}
      (copies : Copies quote source (front ++ scanner :: back)) :
      Copies quote source (scanner :: front ++ scanner :: back)

theorem Copies.stands {quote : Char} {source : String} {scanners : List Scanner}
    (copies : Copies quote source scanners) :
    ∀ scanner ∈ scanners, scanner.source = source ∧ scanner.Stands := by
  induction copies with
  | start => exact List.forall_mem_singleton.2 ⟨rfl, stands_ofSource quote source⟩
  | @step front back scanner copies ih =>
      have own := ih scanner (by simp)
      have step := scanner.step_next
      intro other member
      rw [List.mem_append, List.mem_cons] at member
      rcases member with before | rfl | behind
      · exact ih other (List.mem_append_left _ before)
      · exact ⟨step.source_eq.trans own.1, step.stands own.2⟩
      · exact ih other (by simp [behind])
  | @copy front back scanner copies ih =>
      intro other member
      rw [List.cons_append, List.mem_cons] at member
      rcases member with rfl | given
      · exact ih other (by simp)
      · exact ih other given

/-- What holds of a scanner of a source, whatever it has read. -/
structure Safe (source : String) (scanner : Scanner) : Prop where
  boundary : Boundary source.toList scanner.position
  position_le : scanner.position ≤ bytes source.toList
  /-- A machine makes each cut of the next step. -/
  untrapped : scanner.cursor.next = .ok (scanner.next.1, scanner.next.2.cursor)
  unhalted : ∀ count, scanner.cursor.steps count = .ok (scanner.steps count).cursor
  advances : ∀ token, scanner.next.1 = some (.ok token) →
    scanner.position < scanner.next.2.position ∧
      scanner.next.2.position = token.span.stop ∧ 0 < token.span.length ∧
      scanner.position ≤ token.span.position
  fused : (∀ token, scanner.next.1 ≠ some (.ok token)) →
    ∀ count, (scanner.next.2.steps count).next.1 = none
  answers : ∀ count, (scanner.steps count).next.1 = scanner.run.items[count]?
  bounded : scanner.position + scanner.run.items.length ≤ bytes source.toList

theorem Stands.safe (stands : scanner.Stands) : scanner.Safe scanner.source := by
  have size := RestAt.offset_add stands
  refine ⟨RestAt.boundary stands, by omega, scanner.step_next.cursor_next stands,
    stands.cursor_steps, ?_, ?_, scanner.next_steps, scanner.position_add_items_le stands⟩
  · intro token told
    have step := scanner.step_next
    rw [told] at step
    obtain ⟨stop, nonempty, behind⟩ := step.advances
    refine ⟨?_, stop, nonempty, behind⟩
    rw [stop, Span.stop]
    omega
  · intro other count
    rw [next_steps, run_of_no_token scanner other]
    rfl

/-- Every copy of a scanner is safe at every step, and after as many steps as the source has bytes
there is no answer left. -/
theorem safe_of_copies {quote : Char} {source : String} {scanners : List Scanner}
    (copies : Copies quote source scanners) :
    (∀ scanner ∈ scanners, scanner.Safe source) ∧
      (lex quote source).items.length ≤ bytes source.toList ∧
      ∀ count, bytes source.toList ≤ count →
        ((ofSource quote source).steps count).next.1 = none := by
  have start := (stands_ofSource quote source).safe
  have bounded : (lex quote source).items.length ≤ bytes source.toList :=
    Nat.le_trans (Nat.le_add_left ..) start.bounded
  refine ⟨?_, bounded, ?_⟩
  · intro scanner member
    obtain ⟨same, stands⟩ := copies.stands scanner member
    exact same ▸ stands.safe
  · intro count late
    rw [start.answers, ← lex]
    exact List.getElem?_eq_none (Nat.le_trans bounded late)

theorem safe_of_copies_behind_quote :
    let source := "ö --n=→ä b→go\t-="
    let token : Token :=
      ⟨.option ⟨"n", ⟨3, 3⟩, .long, some ⟨⟨"ä b", true⟩, ⟨7, 10⟩⟩⟩, ⟨3, 14⟩⟩
    let items : List (Except LexError Token) :=
      [.ok ⟨.program ⟨"ö", false⟩, ⟨0, 2⟩⟩, .ok token, .ok ⟨.command "go", ⟨17, 2⟩⟩,
        .error (.malformedOption "-=" LexError.missingName ⟨20, 2⟩)]
    let copied : Scanner := ⟨source, '→', " --n=→ä b→go\t-=".toList, 2, true, false⟩
    let ahead : Scanner := ⟨source, '→', "go\t-=".toList, 17, true, false⟩
    Copies '→' source [copied, ahead] ∧ copied.next = (some (.ok token), ahead) ∧
      copied.Safe source ∧ ahead.Safe source ∧ (lex '→' source).items = items ∧
      items.length ≤ bytes source.toList ∧ bytes source.toList = 22 ∧
      ((ofSource '→' source).steps 22).next.1 = none := by
  intro source token items copied ahead
  have first : (ofSource '→' source).next.2 = copied := by decide +kernel
  have second : copied.next = (some (.ok token), ahead) := by decide +kernel
  have given : (lex '→' source).items = items := by decide +kernel
  have one : Copies '→' source ([] ++ copied :: []) := by
    rw [← first]
    exact .step .start
  have two : Copies '→' source ([copied] ++ copied.next.2 :: []) := .step one.copy
  rw [second] at two
  have size : bytes source.toList = 22 := by decide
  obtain ⟨safe, bounded, ended⟩ := safe_of_copies two
  rw [given] at bounded
  exact ⟨two, second, safe copied (by simp), safe ahead (by simp), given, bounded, size,
    ended 22 (Nat.le_of_eq size)⟩

end Scanner

end CommandLine
