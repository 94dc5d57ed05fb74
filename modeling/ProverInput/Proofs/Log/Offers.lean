import ProverInput.Service.Work

/-!
What a session becomes when events are offered to it. The log grows by one entry an offer, and the
moment at which a token becomes cancelled can be read off the log.
-/

namespace ProverInput

namespace Log

def writtenCount (entries : List Entry) : Nat :=
  entries.countP (·.written.isSome)

@[simp] theorem writtenCount_append (first second : List Entry) :
    writtenCount (first ++ second) = writtenCount first + writtenCount second :=
  List.countP_append

end Log

structure Offer where
  origin : Log.Origin
  event : Log.Event
  deriving DecidableEq, Repr

namespace Session

def entryOf (session : Session) (offer : Offer) : Log.Entry where
  origin := offer.origin
  event := offer.event
  written := if offer.event.severity.reaches session.threshold then some session.format else none

def offer (session : Session) (offers : List Offer) : Session :=
  offers.foldl (fun reached offer => reached.report offer.origin offer.event) session

@[simp] theorem offer_nil (session : Session) : session.offer [] = session := rfl

@[simp] theorem offer_cons (session : Session) (first : Offer) (rest : List Offer) :
    session.offer (first :: rest) = (session.report first.origin first.event).offer rest := rfl

theorem offer_append (session : Session) (first second : List Offer) :
    session.offer (first ++ second) = (session.offer first).offer second := by
  simp only [offer, List.foldl_append]

theorem report_eq (session : Session) (origin : Log.Origin) (event : Log.Event) :
    ∃ cancelled, session.report origin event =
      { session with
        entries := session.entries ++ [session.entryOf ⟨origin, event⟩]
        cancelled := cancelled } := by
  cases written : event.severity.reaches session.threshold with
  | false => exact ⟨session.cancelled, by simp [report, entryOf, written]⟩
  | true =>
      simp only [report, entryOf, written, if_true, interrupted]
      split
      · split
        · exact ⟨_, rfl⟩
        · exact ⟨_, rfl⟩
      · exact ⟨_, rfl⟩

@[simp] theorem report_entries (session : Session) (origin : Log.Origin) (event : Log.Event) :
    (session.report origin event).entries =
      session.entries ++ [session.entryOf ⟨origin, event⟩] := by
  obtain ⟨cancelled, same⟩ := report_eq session origin event
  rw [same]

@[simp] theorem report_threshold (session : Session) (origin : Log.Origin) (event : Log.Event) :
    (session.report origin event).threshold = session.threshold := by
  obtain ⟨cancelled, same⟩ := report_eq session origin event
  rw [same]

@[simp] theorem report_format (session : Session) (origin : Log.Origin) (event : Log.Event) :
    (session.report origin event).format = session.format := by
  obtain ⟨cancelled, same⟩ := report_eq session origin event
  rw [same]

@[simp] theorem report_interruption (session : Session) (origin : Log.Origin)
    (event : Log.Event) :
    (session.report origin event).interruption = session.interruption := by
  obtain ⟨cancelled, same⟩ := report_eq session origin event
  rw [same]

@[simp] theorem report_entryOf (session : Session) (origin : Log.Origin) (event : Log.Event) :
    (session.report origin event).entryOf = session.entryOf := by
  funext offer
  simp [entryOf]

@[simp] theorem offer_entryOf (session : Session) (offers : List Offer) :
    (session.offer offers).entryOf = session.entryOf := by
  induction offers generalizing session with
  | nil => rfl
  | cons first rest ih => rw [offer_cons, ih, report_entryOf]

theorem offer_entries (session : Session) (offers : List Offer) :
    (session.offer offers).entries = session.entries ++ offers.map session.entryOf := by
  induction offers generalizing session with
  | nil => simp
  | cons first rest ih => simp [ih]

theorem filter_named_eq_nil {name : String} {offers : List Offer}
    (others : ∀ offer ∈ offers, offer.event.name ≠ name) (session : Session) :
    (offers.map session.entryOf).filter (·.event.name = name) = [] := by
  rw [List.filter_eq_nil_iff]
  intro entry member
  obtain ⟨offer, offered, rfl⟩ := List.mem_map.mp member
  simp [entryOf, others offer offered]

theorem records_entryOf (session : Session) (offers : List Offer) (stamp : String) :
    Log.records stamp (offers.map session.entryOf) =
      ((offers.map (·.event)).filter (·.severity.reaches session.threshold)).map
        (·.line session.format stamp) := by
  induction offers with
  | nil => rfl
  | cons first rest ih =>
      simp only [Log.records, List.map_cons, List.filterMap_cons, List.filter_cons] at ih ⊢
      cases reached : first.event.severity.reaches session.threshold with
      | true => simp [Log.Entry.record?, entryOf, reached, ih]
      | false => simp [Log.Entry.record?, entryOf, reached, ih]

/-! Moments of a session. Once cancelled, a token stays so; until then only the interruption can
cancel it, right after the record it waits for. -/

/-- The token is cancelled once the entries of a log have followed. -/
def CancelledAfter (session : Session) (token : Token) (log : List Log.Entry) : Prop :=
  token ∈ session.cancelled ∨
    ∃ interruption, session.interruption = some interruption ∧ interruption.token = token ∧
      session.recordCount < interruption.afterRecord ∧
      interruption.afterRecord ≤ session.recordCount + Log.writtenCount log

theorem isCancelled_iff (session : Session) (token : Token) :
    session.isCancelled token = true ↔ token ∈ session.cancelled := by
  simp [isCancelled]

theorem cancelledAfter_nil_iff (session : Session) (token : Token) :
    session.CancelledAfter token [] ↔ token ∈ session.cancelled := by
  constructor
  · rintro (already | ⟨interruption, _, _, later, earlier⟩)
    · exact already
    · simp only [Log.writtenCount, List.countP_nil, Nat.add_zero] at earlier
      omega
  · exact Or.inl

theorem CancelledAfter.append {session : Session} {token : Token} {log : List Log.Entry}
    (cancelled : session.CancelledAfter token log) (more : List Log.Entry) :
    session.CancelledAfter token (log ++ more) := by
  rcases cancelled with already | ⟨interruption, found, same, later, earlier⟩
  · exact Or.inl already
  · refine Or.inr ⟨interruption, found, same, later, ?_⟩
    rw [Log.writtenCount_append]
    omega

@[simp] theorem report_recordCount (session : Session) (origin : Log.Origin) (event : Log.Event) :
    (session.report origin event).recordCount =
      session.recordCount + Log.writtenCount [session.entryOf ⟨origin, event⟩] := by
  simp only [recordCount, report_entries, List.countP_append, Log.writtenCount]

theorem mem_cancelled_interrupted_iff (session : Session) (token : Token) :
    token ∈ session.interrupted.cancelled ↔ token ∈ session.cancelled ∨
      ∃ interruption, session.interruption = some interruption ∧ interruption.token = token ∧
        interruption.afterRecord = session.recordCount := by
  unfold interrupted
  cases waiting : session.interruption with
  | none => simp
  | some interruption =>
      by_cases due : interruption.afterRecord = session.recordCount
      · simp [due, cancel, or_comm, eq_comm]
      · simp [due]

theorem writtenCount_entryOf (session : Session) (offer : Offer) :
    Log.writtenCount [session.entryOf offer] =
      if offer.event.severity.reaches session.threshold then 1 else 0 := by
  cases written : offer.event.severity.reaches session.threshold with
  | false => simp [Log.writtenCount, entryOf, written]
  | true => simp [Log.writtenCount, entryOf, written]

theorem mem_cancelled_report_iff (session : Session) (origin : Log.Origin) (event : Log.Event)
    (token : Token) :
    token ∈ (session.report origin event).cancelled ↔
      session.CancelledAfter token [session.entryOf ⟨origin, event⟩] := by
  unfold CancelledAfter
  rw [writtenCount_entryOf]
  cases written : event.severity.reaches session.threshold with
  | false =>
      simp only [report, written, Bool.false_eq_true, if_false]
      constructor
      · exact Or.inl
      · rintro (already | ⟨interruption, found, same, later, earlier⟩)
        · exact already
        · omega
  | true =>
      simp only [report, written, if_true, mem_cancelled_interrupted_iff, recordCount,
        List.countP_append, List.countP_singleton, Option.isSome_some]
      constructor
      · rintro (already | ⟨interruption, found, same, due⟩)
        · exact Or.inl already
        · exact Or.inr ⟨interruption, found, same, by omega, by omega⟩
      · rintro (already | ⟨interruption, found, same, later, earlier⟩)
        · exact Or.inl already
        · exact Or.inr ⟨interruption, found, same, by omega⟩

theorem cancelledAfter_report_iff (session : Session) (origin : Log.Origin) (event : Log.Event)
    (token : Token) (log : List Log.Entry) :
    (session.report origin event).CancelledAfter token log ↔
      session.CancelledAfter token (session.entryOf ⟨origin, event⟩ :: log) := by
  have split : Log.writtenCount (session.entryOf ⟨origin, event⟩ :: log) =
      Log.writtenCount [session.entryOf ⟨origin, event⟩] + Log.writtenCount log :=
    Log.writtenCount_append [_] log
  unfold CancelledAfter
  rw [mem_cancelled_report_iff, report_interruption, report_recordCount, split]
  unfold CancelledAfter
  constructor
  · rintro ((already | ⟨interruption, found, same, later, earlier⟩) |
      ⟨interruption, found, same, later, earlier⟩)
    · exact Or.inl already
    · exact Or.inr ⟨interruption, found, same, later, by omega⟩
    · exact Or.inr ⟨interruption, found, same, by omega, by omega⟩
  · rintro (already | ⟨interruption, found, same, later, earlier⟩)
    · exact Or.inl (Or.inl already)
    · by_cases now : interruption.afterRecord ≤
          session.recordCount + Log.writtenCount [session.entryOf ⟨origin, event⟩]
      · exact Or.inl (Or.inr ⟨interruption, found, same, later, now⟩)
      · exact Or.inr ⟨interruption, found, same, by omega, by omega⟩

theorem mem_cancelled_offer_iff (session : Session) (offers : List Offer) (token : Token) :
    token ∈ (session.offer offers).cancelled ↔
      session.CancelledAfter token (offers.map session.entryOf) := by
  rw [← cancelledAfter_nil_iff]
  induction offers generalizing session with
  | nil => rfl
  | cons first rest ih =>
      rw [offer_cons, ih, report_entryOf, cancelledAfter_report_iff, List.map_cons]

theorem perform_offers {α : Type} (session : Session) (work : Work α) :
    ∃ offers, (∀ offer ∈ offers, offer.origin = .service) ∧
      (session.perform work).2 = session.offer offers := by
  induction work generalizing session with
  | done result => exact ⟨[], by simp, rfl⟩
  | report event rest ih =>
      obtain ⟨offers, own, same⟩ := ih (session.report .service event)
      refine ⟨⟨.service, event⟩ :: offers, ?_, same⟩
      intro offer member
      rcases List.mem_cons.mp member with rfl | later
      · rfl
      · exact own offer later
  | poll token rest ih => exact ih (session.isCancelled token) session

theorem offer_threshold (session : Session) (offers : List Offer) :
    (session.offer offers).threshold = session.threshold := by
  induction offers generalizing session with
  | nil => rfl
  | cons first rest ih => rw [offer_cons, ih, report_threshold]

theorem offer_format (session : Session) (offers : List Offer) :
    (session.offer offers).format = session.format := by
  induction offers generalizing session with
  | nil => rfl
  | cons first rest ih => rw [offer_cons, ih, report_format]

end Session

end ProverInput
