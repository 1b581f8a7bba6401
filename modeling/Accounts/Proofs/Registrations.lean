import Accounts.Proofs.Interleaving

/-!
# Accounts.Proofs.Registrations — clients that register at the same time

Every client looks first whether the name is free, and several may see it free before one of them
adds its row.  What they have seen does not matter: the table itself has the last word
(`Registration.insertion_turn`).  The invariant `Race` lists the clients that have won so far, in
the order of their rows, and `race_settled` reads the outcome off it.
-/

namespace Accounts

open Calendar

/-- What a client wants to register. -/
structure Registration where
  now : Timestamp
  username : String
  passwordHash : String
  birthDate : Option Date

namespace Registration

variable (c : Registration) {t : Table}

/-- The user to be stored. -/
def user : User :=
  .unsaved c.now c.username c.passwordHash c.birthDate

def plan : Plan User :=
  Service.register c.now c.username c.passwordHash c.birthDate

/-- What is left once the name was seen free. -/
def insertion : Plan User :=
  .ask (.add c.user) fun user => .note (.userRegistered user.id user.username) (.done user)

/-- The user that was stored under an identifier. -/
def stored (id : Int) : User :=
  { c.user with id := some id }

theorem plan_eq : c.plan = .ask (.byName c.username) fun rival =>
    if rival.isSome then .fail Table.clash else c.insertion :=
  Service.register_eq _ _ _ _

theorem plan_endsWithin : c.plan.EndsWithin 3 := by
  refine .ask fun rival => ?_
  show Plan.EndsWithin 2 (if rival.isSome = true then .fail Table.clash else c.insertion)
  split
  · exact .fail _ _
  · exact .ask fun user => .note _ (.done _ _)

/-- The look at the name either refuses the client or leaves it the insertion. -/
theorem plan_turn : c.plan.turn Database.store ⟨some t⟩ =
    (if (t.byName c.username).isSome then .fail Table.clash else c.insertion, ⟨some t⟩) := by
  simp [plan_eq, Plan.turn, Database.store, Database.byName, Database.onTable]

/-- The insertion is refused if the name is taken by now, and adds the row if it is free. -/
theorem insertion_turn (hash : c.passwordHash ≠ "") (faultless : t.faults = {}) :
    c.insertion.turn Database.store ⟨some t⟩ =
      if (t.byName c.username).isSome then (.fail Table.clash, ⟨some t⟩)
      else (.note (.userRegistered (some (t.lastId + 1 : Int)) c.username)
        (.done (c.stored (t.lastId + 1))), ⟨some (t.append c.user)⟩) := by
  simp only [insertion, Plan.turn, Database.store]
  by_cases taken : (t.byName c.username).isSome = true
  · rw [if_pos taken, Database.add_of_taken (u := c.user) rfl hash (by rw [faultless]) taken]
  · have free : t.byName c.user.username = none := Option.not_isSome_iff_eq_none.1 taken
    have hadd : Database.Addable t c.user :=
      ⟨rfl, hash, free, by rw [faultless], by rw [faultless]⟩
    rw [if_neg taken, Database.add_of_addable hadd]
    rfl

end Registration

/-! ### The table that the winners leave -/

variable {n : Nat} {t : Table} {calls : Fin n → Registration} {winners : List (Fin n)} {k : Fin n}

/-- The table with a row for each winner, in their order and under the next identifiers. -/
def Table.enroll (t : Table) (calls : Fin n → Registration) (winners : List (Fin n)) : Table :=
  { t with
    rows := t.rows ++ winners.mapIdx fun i k => Row.ofUser (t.lastId + 1 + i) (calls k).user
    lastId := t.lastId + winners.length }

@[simp] theorem Table.enroll_nil (t : Table) (calls : Fin n → Registration) :
    t.enroll calls [] = t := by
  simp [enroll]

theorem Table.enroll_concat (t : Table) (calls : Fin n → Registration) (winners : List (Fin n))
    (k : Fin n) :
    t.enroll calls (winners ++ [k]) = (t.enroll calls winners).append (calls k).user := by
  have hid : (t.lastId : Int) + 1 + winners.length = (t.lastId + winners.length : Nat) + 1 := by
    omega
  simp only [enroll, append, List.mapIdx_append, List.mapIdx_cons, List.mapIdx_nil, Nat.zero_add,
    hid, List.append_assoc, List.length_append, List.length_singleton, Nat.add_assoc]

theorem Table.enroll_usernames (t : Table) (calls : Fin n → Registration)
    (winners : List (Fin n)) :
    (t.enroll calls winners).rows.map Row.username =
      t.rows.map Row.username ++ winners.map fun k => (calls k).username := by
  simp only [enroll, List.map_append, List.append_cancel_left_eq]
  apply List.ext_getElem
  · simp
  · intro i _ _
    simp [Row.ofUser, Registration.user, User.unsaved]

/-- A name is taken if it was taken before or a winner has it. -/
theorem Table.enroll_byName_isSome_iff {name : String} :
    ((t.enroll calls winners).byName name).isSome ↔
      (t.byName name).isSome ∨ ∃ k ∈ winners, (calls k).username = name := by
  rw [byName_isSome_iff, byName_isSome_iff, enroll_usernames, List.mem_append]
  simp

/-! ### The invariant -/

/-- How far client `k` may have come once the winners have added their rows. -/
inductive Stage (t : Table) (calls : Fin n → Registration) (winners : List (Fin n)) (k : Fin n) :
    Plan User → Prop
  | asking (h : k ∉ winners) : Stage t calls winners k (calls k).plan
  | adding (h : k ∉ winners) : Stage t calls winners k (calls k).insertion
  | noting {i : Nat} (e : Event) (h : winners[i]? = some k) :
    Stage t calls winners k (.note e (.done ((calls k).stored (t.lastId + 1 + i))))
  | won {i : Nat} (h : winners[i]? = some k) :
    Stage t calls winners k (.done ((calls k).stored (t.lastId + 1 + i)))
  | lost (h : k ∉ winners)
      (taken : ((t.enroll calls winners).byName (calls k).username).isSome) :
    Stage t calls winners k (.fail Table.clash)

/-- Nobody else is set back by one more winner. -/
theorem Stage.concat {p : Plan User} (h : Stage t calls winners k p) {j : Fin n} (hj : k ≠ j) :
    Stage t calls (winners ++ [j]) k p := by
  have hmem : k ∉ winners → k ∉ winners ++ [j] := by
    intro hk
    simp [hk, hj]
  have hget : ∀ {i : Nat}, winners[i]? = some k → (winners ++ [j])[i]? = some k := by
    intro i hi
    have hlt : i < winners.length := (List.getElem?_eq_some_iff.1 hi).1
    rw [List.getElem?_append_left hlt, hi]
  cases h with
  | asking h => exact .asking (hmem h)
  | adding h => exact .adding (hmem h)
  | noting e h => exact .noting e (hget h)
  | won h => exact .won (hget h)
  | lost h taken =>
    refine .lost (hmem h) ?_
    rw [Table.enroll_byName_isSome_iff] at taken ⊢
    rcases taken with taken | ⟨i, hi, hname⟩
    · exact .inl taken
    · exact .inr ⟨i, List.mem_append_left _ hi, hname⟩

/-- The winners' rows are the only new ones, and every client is at some stage. -/
structure Race (t : Table) (calls : Fin n → Registration) (winners : List (Fin n))
    (s : Clients n User) : Prop where
  database : s.database = ⟨some (t.enroll calls winners)⟩
  stage : ∀ k, Stage t calls winners k (s.plans k)

variable {s : Clients n User}

/-- A turn that leaves the database alone lets nobody else win. -/
theorem Race.keep (h : Race t calls winners s) {p : Plan User}
    (hturn : (s.plans k).turn Database.store s.database = (p, s.database))
    (hp : Stage t calls winners k p) : Race t calls winners (s.turn (.client k)) := by
  refine ⟨?_, ?_⟩
  · simp only [Clients.turn, hturn]
    exact h.database
  · intro j
    simp only [Clients.turn, hturn]
    by_cases hj : j = k
    · subst hj
      rwa [Function.update_self]
    · rw [Function.update_of_ne hj]
      exact h.stage j

/-- A turn that adds the row of client `k` makes it the next winner. -/
theorem Race.win (h : Race t calls winners s) {e : Event}
    (hturn : (s.plans k).turn Database.store s.database =
      (.note e (.done ((calls k).stored (t.lastId + 1 + winners.length))),
        ⟨some (t.enroll calls (winners ++ [k]))⟩)) :
    Race t calls (winners ++ [k]) (s.turn (.client k)) := by
  refine ⟨by simp only [Clients.turn, hturn], ?_⟩
  intro j
  simp only [Clients.turn, hturn]
  by_cases hj : j = k
  · subst hj
    rw [Function.update_self]
    exact .noting e (by simp)
  · rw [Function.update_of_ne hj]
    exact (h.stage j).concat hj

/-- A client that is about to add its row loses the race or wins it. -/
theorem Race.insertion (h : Race t calls winners s) (faultless : t.faults = {})
    (hash : (calls k).passwordHash ≠ "") (hk : k ∉ winners)
    (hplan : s.plans k = (calls k).insertion) :
    ∃ winners', Race t calls winners' (s.turn (.client k)) := by
  have hturn := (calls k).insertion_turn (t := t.enroll calls winners) hash faultless
  rw [← hplan, ← h.database] at hturn
  by_cases taken : ((t.enroll calls winners).byName (calls k).username).isSome = true
  · rw [if_pos taken] at hturn
    exact ⟨winners, h.keep hturn (.lost hk taken)⟩
  · have hid : ((t.enroll calls winners).lastId : Int) + 1 = t.lastId + 1 + winners.length := by
      simp only [Table.enroll]
      omega
    rw [if_neg taken, hid, ← Table.enroll_concat] at hturn
    exact ⟨winners ++ [k], h.win hturn⟩

/-- Any turn that is a client's, or only looks, keeps the invariant. -/
theorem Race.turn (h : Race t calls winners s) (faultless : t.faults = {})
    (hash : ∀ k, (calls k).passwordHash ≠ "") {x : Turn n}
    (hreads : ∀ now step, x = .step now step → step.isRead = true) :
    ∃ winners', Race t calls winners' (s.turn x) := by
  cases x with
  | step now step =>
    obtain ⟨hsame, -⟩ := Step.effect_of_isRead (hreads now step rfl) now s.database
    exact ⟨winners, hsame.trans h.database, h.stage⟩
  | client k =>
    have hstage := h.stage k
    generalize hplan : s.plans k = p at hstage
    cases hstage with
    | asking hk =>
      have hturn := (calls k).plan_turn (t := t.enroll calls winners)
      rw [← hplan, ← h.database] at hturn
      refine ⟨winners, h.keep hturn ?_⟩
      split
      · next taken => exact .lost hk taken
      · exact .adding hk
    | adding hk => exact h.insertion faultless (hash k) hk hplan
    | noting e hk => exact ⟨winners, h.keep (by rw [hplan]; rfl) (.won hk)⟩
    | won hk => exact ⟨winners, h.keep (by rw [hplan]; rfl) (.won hk)⟩
    | lost hk taken => exact ⟨winners, h.keep (by rw [hplan]; rfl) (.lost hk taken)⟩

/-- The clients before their first turns. -/
def Clients.start (calls : Fin n → Registration) (db : Database) : Clients n User :=
  ⟨fun k => (calls k).plan, db⟩

/-- A client that gets three turns has ended. -/
theorem Clients.start_ends (calls : Fin n → Registration) (db : Database)
    (schedule : List (Turn n)) (h : 3 ≤ schedule.count (.client k)) :
    (((Clients.start calls db).run schedule).result? k).isSome :=
  Clients.run_ends schedule (calls k).plan_endsWithin h

theorem Race.start (t : Table) (calls : Fin n → Registration) :
    Race t calls [] (.start calls ⟨some t⟩) :=
  ⟨by simp [Clients.start], fun _ => .asking List.not_mem_nil⟩

theorem Race.run (schedule : List (Turn n)) (h : Race t calls winners s)
    (faultless : t.faults = {}) (hash : ∀ k, (calls k).passwordHash ≠ "")
    (hreads : ∀ now step, .step now step ∈ schedule → step.isRead = true) :
    ∃ winners', Race t calls winners' (s.run schedule) := by
  induction schedule generalizing s winners with
  | nil => exact ⟨winners, h⟩
  | cons x rest ih =>
    have hx : ∀ now step, x = .step now step → step.isRead = true := by
      rintro now step rfl
      exact hreads now step List.mem_cons_self
    obtain ⟨winners', h'⟩ := h.turn faultless hash hx
    exact ih h' fun now step hmem => hreads now step (List.mem_cons_of_mem _ hmem)

/-- A client that has ended has won or lost. -/
theorem Race.ended (h : Race t calls winners s) (hend : (s.result? k).isSome) :
    (∃ i : Nat, winners[i]? = some k ∧
      s.result? k = some (.ok ((calls k).stored (t.lastId + 1 + i)))) ∨
    k ∉ winners ∧ ((t.enroll calls winners).byName (calls k).username).isSome ∧
      s.result? k = some (.error Table.clash) := by
  have hstage := h.stage k
  unfold Clients.result? at hend ⊢
  generalize s.plans k = p at hstage hend
  cases hstage with
  | asking => cases hend
  | adding => cases hend
  | noting => cases hend
  | @won i hi => exact .inl ⟨i, hi, rfl⟩
  | lost hk taken => exact .inr ⟨hk, taken, rfl⟩

theorem Race.lost (h : Race t calls winners s) (hend : (s.result? k).isSome) (hk : k ∉ winners) :
    ((t.enroll calls winners).byName (calls k).username).isSome ∧
      s.result? k = some (.error Table.clash) := by
  rcases h.ended hend with ⟨i, hi, -⟩ | ⟨-, hlost⟩
  · exact absurd (List.mem_of_getElem? hi) hk
  · exact hlost

theorem Race.won (h : Race t calls winners s) (hend : (s.result? k).isSome)
    (hnodup : winners.Nodup) {i : Nat} (hi : winners[i]? = some k) :
    s.result? k = some (.ok ((calls k).stored (t.lastId + 1 + i))) := by
  rcases h.ended hend with ⟨j, hj, hk⟩ | ⟨hk, -⟩
  · have hlt : i < winners.length := (List.getElem?_eq_some_iff.1 hi).1
    have hij : i = j := (List.getElem?_inj hlt hnodup).1 (hi.trans hj.symm)
    rw [hij, hk]
  · exact absurd (List.mem_of_getElem? hi) hk

/-- The winners' names are distinct and were free. -/
theorem Table.Sound.winners_names (h : (t.enroll calls winners).Sound) :
    (winners.map fun k => (calls k).username).Nodup ∧
      ∀ k ∈ winners, t.byName (calls k).username = none := by
  have hnames := h.names_nodup
  rw [Table.enroll_usernames, List.nodup_append] at hnames
  obtain ⟨-, hnodup, hapart⟩ := hnames
  refine ⟨hnodup, ?_⟩
  intro k hk
  rw [Table.byName_eq_none_iff]
  intro r hr
  exact hapart _ (List.mem_map_of_mem hr) _ (List.mem_map_of_mem hk)

/-- Once all have ended, the winners' names are those that were free and asked for. -/
theorem Race.mem_winners_iff (h : Race t calls winners s) (hend : ∀ k, (s.result? k).isSome)
    (hfree : ∀ k ∈ winners, t.byName (calls k).username = none) (name : String) :
    name ∈ winners.map (fun k => (calls k).username) ↔
      t.byName name = none ∧ ∃ k, (calls k).username = name := by
  rw [List.mem_map]
  constructor
  · rintro ⟨k, hk, rfl⟩
    exact ⟨hfree k hk, k, rfl⟩
  · rintro ⟨hnone, k, rfl⟩
    by_cases hk : k ∈ winners
    · exact ⟨k, hk, rfl⟩
    · -- a loser lost to somebody, and before the race the name was free
      rcases Table.enroll_byName_isSome_iff.1 (h.lost (hend k) hk).1 with htaken | hwinner
      · rw [hnone] at htaken
        cases htaken
      · exact hwinner

/-- **Registrations at the same time.**  However the clients take turns with each other and with
steps that only look: once all have ended, a name that was taken before was refused to everyone, and
a name that was free went to exactly one of the clients that asked for it.  The table has gained
one row for each winner, with what the winner sent, under the next identifiers. -/
theorem race_settled {db : Database} (hdb : db.Reachable) (ht : db.table = some t)
    (faultless : t.faults = {}) (calls : Fin n → Registration)
    (hash : ∀ k, (calls k).passwordHash ≠ "") (schedule : List (Turn n))
    (hreads : ∀ now step, .step now step ∈ schedule → step.isRead = true)
    (hrun : (Clients.start calls db).run schedule = s) (hend : ∀ k, (s.result? k).isSome) :
    (∀ k, (t.byName (calls k).username).isSome →
      s.result? k = some (.error (.conflict "Username"))) ∧
    (∀ name, t.byName name = none → (∃ k, (calls k).username = name) →
      ∃ k, (calls k).username = name ∧ (∃ u, s.result? k = some (.ok u)) ∧
        ∀ j, j ≠ k → (calls j).username = name →
          s.result? j = some (.error (.conflict "Username"))) ∧
    ∃ winners : List (Fin n),
      s.database.table = some { t with
        rows := t.rows ++ winners.mapIdx fun i k => Row.ofUser (t.lastId + 1 + i) (calls k).user
        lastId := t.lastId + winners.length } ∧
      (∀ (i : Nat) k, winners[i]? = some k →
        s.result? k = some (.ok { (calls k).user with id := some (t.lastId + 1 + i : Int) })) ∧
      (winners.map fun k => (calls k).username).Nodup ∧
      (∀ name, name ∈ winners.map (fun k => (calls k).username) ↔
        t.byName name = none ∧ ∃ k, (calls k).username = name) ∧
      ∀ t', s.database.table = some t' → (t'.rows.map Row.id).Nodup := by
  obtain rfl : db = ⟨some t⟩ := by cases db; cases ht; rfl
  obtain ⟨winners, hrace⟩ := (Race.start t calls).run schedule faultless hash hreads
  have hs := Clients.run_sound schedule (s := .start calls ⟨some t⟩) hdb.sound
  rw [hrun] at hrace hs
  have hsound : (t.enroll calls winners).Sound := hs _ (by rw [hrace.database])
  obtain ⟨hnodup, hfree⟩ := hsound.winners_names
  have hwon : ∀ (i : Nat) k, winners[i]? = some k →
      s.result? k = some (.ok ((calls k).stored (t.lastId + 1 + i))) :=
    fun i k => hrace.won (hend k) hnodup.of_map
  have hnames := hrace.mem_winners_iff hend hfree
  refine ⟨?_, ?_, winners, ?_, hwon, hnodup, hnames, fun t' ht' => (hs t' ht').ids_nodup⟩
  · intro k htaken
    have hk : k ∉ winners := by
      intro hk
      rw [hfree k hk] at htaken
      cases htaken
    exact (hrace.lost (hend k) hk).2
  · intro name hnone hasked
    obtain ⟨k, hk, hname⟩ := List.mem_map.1 ((hnames name).2 ⟨hnone, hasked⟩)
    obtain ⟨i, hi⟩ := List.getElem?_of_mem hk
    refine ⟨k, hname, ⟨_, hwon i k hi⟩, ?_⟩
    intro j hj hjname
    have hjlost : j ∉ winners := fun hmem =>
      hj (List.inj_on_of_nodup_map hnodup hmem hk (hjname.trans hname.symm))
    exact (hrace.lost (hend j) hjlost).2
  · rw [hrace.database]
    rfl

/-- Two clients for a name that is free, and one for a name that is taken. -/
def rivals : Fin 3 → Registration
  | 0 => ⟨noon, "carol", "fifth", none⟩
  | 1 => ⟨noon, "carol", "sixth", none⟩
  | 2 => ⟨noon, "bob", "seventh", none⟩

/-- Both see the name free, then the second is faster. -/
def rivalTurns : List (Turn 3) :=
  [.client 0, .client 1, .step noon (.operation (.find 2)), .client 1, .client 2, .client 0,
    .client 1]

theorem race_of_rivals :
    (Session.run {} sampleRun).table = some sampleTable ∧
    (∀ k, (((Clients.start rivals (Session.run {} sampleRun)).run rivalTurns).result? k).isSome) ∧
    ((Clients.start rivals (Session.run {} sampleRun)).run rivalTurns).result? 2 =
      some (.error (.conflict "Username")) ∧
    ∃ k, (rivals k).username = "carol" ∧
      (∃ u, ((Clients.start rivals (Session.run {} sampleRun)).run rivalTurns).result? k =
        some (.ok u)) ∧
      ∀ j, j ≠ k → (rivals j).username = "carol" →
        ((Clients.start rivals (Session.run {} sampleRun)).run rivalTurns).result? j =
          some (.error (.conflict "Username")) := by
  have htable : (Session.run {} sampleRun).table = some sampleTable := by decide +kernel
  have hreads : ∀ now step, .step now step ∈ rivalTurns → step.isRead = true := by
    intro now step h
    simp only [rivalTurns, List.mem_cons, Turn.step.injEq, reduceCtorEq, false_or,
      List.not_mem_nil, or_false] at h
    rw [h.2]
    rfl
  have hend : ∀ k, (((Clients.start rivals (Session.run {} sampleRun)).run
      rivalTurns).result? k).isSome := by decide +kernel
  obtain ⟨htaken, hfree, -⟩ := race_settled ⟨sampleRun, rfl⟩ htable rfl rivals (by decide)
    rivalTurns hreads rfl hend
  exact ⟨htable, hend, htaken 2 (by decide +kernel), hfree "carol" (by decide +kernel) ⟨0, rfl⟩⟩

end Accounts
