import Accounts.Proofs.Soundness

/-!
# Accounts.Proofs.BoundedOutput — actions on an output that fills up

An output takes bytes one after the other until it is full, in whatever pieces they are handed over
(`Output.writeAll_eq`), and keeps as many as it has room for (`Output.write_eq`).  Printing comes
last in an action, so the bound decides what is kept of the text and whether the action ends
well, and nothing else: the store is asked the same (`Plan.run_recorded`) and holds the same.
-/

namespace Accounts

open Calendar

/-! ### Outputs, byte by byte -/

/-- An output that takes a number of bytes and refuses the next. -/
structure Output where
  /-- The number of bytes that it still takes. -/
  room : Nat
  /-- The bytes that it took, the latest last. -/
  kept : List UInt8 := []
  deriving DecidableEq

namespace Output

/-- Hands bytes over until one is refused, and tells whether all of them were taken. -/
def write (o : Output) : List UInt8 → Bool × Output
  | [] => (true, o)
  | b :: bytes =>
    match o.room with
    | 0 => (false, o)
    | n + 1 => (⟨n, o.kept ++ [b]⟩ : Output).write bytes

/-- Hands over one piece after the other until one is not taken whole. -/
def writeAll (o : Output) : List (List UInt8) → Bool × Output
  | [] => (true, o)
  | piece :: pieces =>
    match o.write piece with
    | (true, o) => o.writeAll pieces
    | (false, o) => (false, o)

variable {o : Output} {xs ys : List UInt8}

theorem write_append (o : Output) (xs ys : List UInt8) :
    o.write (xs ++ ys) =
      match o.write xs with
      | (true, o) => o.write ys
      | (false, o) => (false, o) := by
  induction xs generalizing o with
  | nil => rfl
  | cons b xs ih =>
    obtain ⟨_ | n, kept⟩ := o
    · rfl
    · exact ih ⟨n, kept ++ [b]⟩

/-- It makes no difference in which pieces the bytes are handed over. -/
theorem writeAll_eq (o : Output) (pieces : List (List UInt8)) :
    o.writeAll pieces = o.write pieces.flatten := by
  induction pieces generalizing o with
  | nil => rfl
  | cons piece pieces ih =>
    rw [List.flatten_cons, write_append, writeAll]
    rcases o.write piece with ⟨_ | _, o'⟩
    · rfl
    · exact ih o'

/-- An output keeps as many bytes as it has room for. -/
theorem write_eq (o : Output) (bytes : List UInt8) :
    o.write bytes = (decide (bytes.length ≤ o.room),
      ⟨o.room - bytes.length, o.kept ++ bytes.take o.room⟩) := by
  induction bytes generalizing o with
  | nil => simp [write]
  | cons b bytes ih =>
    obtain ⟨_ | n, kept⟩ := o
    · simp [write]
    · simp only [write, ih, List.length_cons, List.take_succ_cons, List.append_assoc,
        List.singleton_append, Nat.add_le_add_iff_right, Nat.add_sub_add_right]

end Output

/-! ### What a store is asked -/

/-- The store, together with a list of what it was asked, the latest last. -/
def Store.recorded {σ : Type} (store : Store σ) : Store (σ × List Request)
  | r, (s, asked) => ((store r s).1, (store r s).2, asked ++ [r])

/-- Keeping a list of what is asked changes nothing about a run. -/
theorem Plan.run_recorded {σ α : Type} (store : Store σ) (p : Plan α) (s : σ)
    (asked : List Request) :
    p.run store.recorded (s, asked) =
      ⟨(p.run store s).result, (p.run store s).events,
        (p.run store s).state, asked ++ (p.exchanges store s).map Prod.snd⟩ := by
  induction p generalizing s asked with
  | done a => simp [run, exchanges]
  | fail f => simp [run, exchanges]
  | note e rest ih => simp only [run, exchanges, ih]
  | ask r next ih =>
    rcases hr : store r s with ⟨f | reply, s'⟩
    · have hrecorded : store.recorded r (s, asked) = (.error f, s', asked ++ [r]) := by
        simp only [Store.recorded, hr]
      rw [run_ask_of_error hr, run_ask_of_error hrecorded, exchanges_ask_of_error hr]
      rfl
    · have hrecorded : store.recorded r (s, asked) = (.ok reply, s', asked ++ [r]) := by
        simp only [Store.recorded, hr]
      rw [run_ask_of_ok hr, run_ask_of_ok hrecorded, exchanges_ask_of_ok hr, ih]
      simp

/-! ### What an action prints -/

namespace Action

variable {σ : Type}

/-- The action has no user to print. -/
def isSilent : Action → Bool
  | .setUp | .remove _ => true
  | .register _ _ _ | .view _ | .change _ _ => false

/-- A silent action ends without a user, if it ends well. -/
theorem result_of_isSilent {a : Action} (h : a.isSilent = true) (now : Timestamp)
    (store : Store σ) (s : σ) (u : User) : ((a.plan now).run store s).result ≠ .ok (some u) := by
  cases a with
  | setUp =>
    simp only [plan, Service.ensureTable, Plan.request, Plan.tell, Plan.pure_eq, Plan.bind_eq,
      Plan.ask_bind, Plan.note_bind, Plan.done_bind, Plan.run]
    rcases store .createTable s with ⟨_ | _, _⟩ <;> simp
  | remove id =>
    simp only [plan, Service.remove, Plan.request, Plan.tell, Plan.pure_eq, Plan.bind_eq,
      Plan.ask_bind, Plan.note_bind, Plan.done_bind, Plan.run]
    rcases store (.remove id) s with ⟨_ | _, _⟩ <;> simp
  | register | view | change => cases h

theorem printed_eq (u : User) : printed u = bytesOf u.prettyJson ++ bytesOf "\n" := by
  simp [printed, bytesOf]

/-- The bound of an output decides nothing but what is kept of the text and whether all of it
was. -/
theorem report_some (n : Nat) (o : Outcome σ (Option User)) :
    let full := report none o
    report (some n) o =
      ⟨full.result.bind fun _ => if full.output.length ≤ n then .ok () else .error outputFull,
        full.events, full.output.take n, full.state⟩ := by
  rcases o with ⟨f | _ | u, events, s⟩
  · simp [report, Except.bind]
  · simp [report, Except.bind]
  · simp [report, print, Capacity.fits, Capacity.keep, Except.bind]

/-- What an action leaves on an output without bound: nothing, or a user and a line break. -/
theorem report_none (o : Outcome σ (Option User)) :
    ((report none o).output = [] ∧ (report none o).result = o.result.map fun _ => ()) ∨
      ∃ u, o.result = .ok (some u) ∧ (report none o).result = .ok () ∧
        (report none o).output = bytesOf u.prettyJson ++ bytesOf "\n" := by
  rcases o with ⟨f | _ | u, events, s⟩
  · exact .inl ⟨rfl, rfl⟩
  · exact .inl ⟨rfl, rfl⟩
  · exact .inr ⟨u, rfl, rfl, printed_eq u⟩

end Action

/-- **An output that fills up** changes neither what the store is asked nor what it holds then, and
keeps the front of the text.  An action that fails has printed nothing and fails the same way; one
that ends well does so on an output with room for all of the text, down to the line break, in
whatever pieces it is handed over.  A silent action needs no room. -/
theorem output_bounded {σ : Type} (store : Store σ) (s : σ) (now : Timestamp) (a : Action)
    (n : Nat) :
    let full := a.perform store.recorded now none (s, [])
    let cut := a.perform store.recorded now (some n) (s, [])
    (∀ capacity, a.perform store.recorded now capacity (s, []) =
      let r := a.perform store now capacity s
      ⟨r.result, r.events, r.output, r.state, ((a.plan now).exchanges store s).map Prod.snd⟩) ∧
    (cut.state = full.state ∧ cut.events = full.events) ∧
    cut.output = full.output.take (min n full.output.length) ∧
    (match full.result with
      | .error f => full.output = [] ∧ cut.result = .error f
      | .ok () => cut.result = if full.output.length ≤ n then .ok () else
          .error (.internal "Failed to write output: out full")) ∧
    (full.output = [] ∨ ∃ u : User, full.output = bytesOf u.prettyJson ++ bytesOf "\n" ∧
      (n = (bytesOf u.prettyJson).length → cut.output = bytesOf u.prettyJson ∧
        cut.result = .error (.internal "Failed to write output: out full"))) ∧
    (a.isSilent = true → cut.output = [] ∧ cut.result = full.result) ∧
    ∀ pieces : List (List UInt8), pieces.flatten = full.output →
      (⟨n, []⟩ : Output).writeAll pieces =
        (decide (full.output.length ≤ n), ⟨n - full.output.length, cut.output⟩) := by
  intro full cut
  have hcut : cut = ⟨full.result.bind fun _ =>
        if full.output.length ≤ n then .ok () else .error Action.outputFull,
      full.events, full.output.take n, full.state⟩ := Action.report_some n _
  have hfull : (full.output = [] ∧
        full.result = ((a.plan now).run store.recorded (s, [])).result.map fun _ => ()) ∨
      ∃ u, ((a.plan now).run store.recorded (s, [])).result = .ok (some u) ∧
        full.result = .ok () ∧ full.output = bytesOf u.prettyJson ++ bytesOf "\n" :=
    Action.report_none _
  rw [hcut]
  refine ⟨?_, ⟨rfl, rfl⟩, ?_, ?_, ?_, ?_, ?_⟩
  · intro capacity
    simp only [Action.perform, Plan.run_recorded, List.nil_append]
    rcases (a.plan now).run store s with ⟨_ | _ | u, events, s'⟩ <;> rfl
  · exact (List.take_eq_take_min).trans (by rw [Nat.min_comm])
  · cases hresult : full.result with
    | ok => rfl
    | error f =>
      rcases hfull with ⟨hempty, -⟩ | ⟨u, -, hok, -⟩
      · exact ⟨hempty, rfl⟩
      · rw [hok] at hresult
        cases hresult
  · rcases hfull with ⟨hempty, -⟩ | ⟨u, -, hok, htext⟩
    · exact .inl hempty
    · refine .inr ⟨u, htext, fun hn => ?_⟩
      have hbreak : (bytesOf "\n").length = 1 := by decide +kernel
      -- all but the line break finds room
      have hlength : ¬ full.output.length ≤ n := by
        rw [htext, List.length_append]
        omega
      rw [hok]
      refine ⟨?_, if_neg hlength⟩
      rw [htext, hn, List.take_left]
  · intro hsilent
    rcases hfull with ⟨hempty, -⟩ | ⟨u, hu, -⟩
    · rw [hempty]
      refine ⟨List.take_nil, ?_⟩
      cases full.result <;> simp [Except.bind]
    · exact absurd hu (Action.result_of_isSilent hsilent now store.recorded (s, []) u)
  · intro pieces hpieces
    rw [Output.writeAll_eq, hpieces, Output.write_eq, List.nil_append]

/-- The database and the user of the example below. -/
def outputDatabase : Database :=
  Session.run {} (sampleRun.take 3)

def outputUser : User :=
  ⟨some 1, "alice", none, "first", noon⟩

/-- With room for all but the line break, a view keeps the whole user and fails; a removal ends well
without any room. -/
theorem outputs_of_sampleRun :
    let text := bytesOf outputUser.prettyJson
    let cut := (Action.view 1).perform Database.store.recorded noon (some text.length)
      (outputDatabase, [])
    let removal := (Action.remove 1).perform Database.store.recorded noon (some 0)
      (outputDatabase, [])
    ([text, bytesOf "\n"].flatten = ((Action.view 1).perform Database.store.recorded noon none
        (outputDatabase, [])).output ∧
      (⟨text.length, []⟩ : Output).writeAll [text, bytesOf "\n"] = (false, ⟨0, text⟩)) ∧
    (cut.output = text ∧ cut.state = (outputDatabase, [.byId 1]) ∧
      cut.result = .error (.internal "Failed to write output: out full")) ∧
    Action.isSilent (.remove 1) = true ∧ removal.output = [] ∧ removal.result = .ok () := by
  obtain ⟨-, ⟨hstate, -⟩, hkept, -, -, -, hpieces⟩ := output_bounded Database.store
    outputDatabase noon (.view 1) (bytesOf outputUser.prettyJson).length
  obtain ⟨-, -, -, -, -, hsilent, -⟩ := output_bounded Database.store outputDatabase noon
    (.remove 1) 0
  have hfull : ((Action.view 1).perform Database.store.recorded noon none
      (outputDatabase, [])).output = bytesOf outputUser.prettyJson ++ bytesOf "\n" := by
    decide +kernel
  have hremove := hsilent (by decide)
  have hbreak : (bytesOf "\n").length = 1 := by decide +kernel
  rw [hfull, List.length_append, hbreak] at hkept hpieces
  rw [Nat.min_eq_left (by omega), List.take_left] at hkept
  refine ⟨⟨?_, ?_⟩, ⟨hkept, ?_, ?_⟩, rfl, hremove.1, ?_⟩
  · rw [hfull]
    simp
  · rw [hpieces _ (by simp), hkept, decide_eq_false (by omega), Nat.sub_eq_zero_of_le (by omega)]
  · rw [hstate]
    decide +kernel
  · decide +kernel
  · rw [hremove.2]
    decide +kernel

end Accounts
