import SpecterCloud.Sessions.Histories

/-! Over whole runs, a lookup returns exactly the sessions that the history shows as valid, up
to the debounce of `last_seen_at`.
-/

namespace SpecterCloud.Auth

open SpecterCloud.Foundations
open SpecterCloud.Models
open SpecterCloud.Core

variable {runtime : Runtime} {tokens : String → Prop} {history later : List SessionEvent}
  {creation event : SessionEvent} {token : String} {issued row : Session} {db : Database}

/-- The row of an issued session is what has happened to it. The stored time of last use lags
the real one by at most the debounce.
-/
structure Follows (runtime : Runtime) (tokens : String → Prop) (later : List SessionEvent)
    (creation : SessionEvent) (token : String) (issued row : Session)
    : Prop where
  known : tokens token
  present : token ≠ ""
  id : row.id = issued.id
  userId : row.userId = issued.userId
  transport : row.transport = issued.transport
  tokenHash : row.tokenHash = hashToken runtime token
  expiresAt : row.expiresAt = creation.1.now + days sessionTtlDays
  unrevoked : row.revokedAt = none ↔ ∀ event ∈ later, ¬ Covers issued event
  seenBefore : row.lastSeenAt ≤ lastUse issued.id creation later
  seenLately
    : lastUse issued.id creation later ≤ row.lastSeenAt + minutes lastSeenDebounceMinutes

/-- The sessions of the database are those of the history. -/
structure Tells (runtime : Runtime) (tokens : String → Prop) (history : List SessionEvent)
    (db : Database)
    : Prop where
  stored
    : ∀ row ∈ db.sessions, ∃ later creation token issued,
        Issued history later creation token issued
        ∧ Follows runtime tokens later creation token issued row
  issued
    : ∀ later creation token issued, Issued history later creation token issued
      → ∃ row ∈ db.sessions, Follows runtime tokens later creation token issued row

-----------------------------------------------------------------------------------------
-- One more event
-----------------------------------------------------------------------------------------

theorem debounce_nonneg : 0 ≤ minutes lastSeenDebounceMinutes := by
  simp [minutes, lastSeenDebounceMinutes]

/-- A session that is issued after an event was issued by the event or before it. -/
theorem issued_cons
    : Issued (event :: history) later creation token issued
      ↔ (later = [] ∧ creation = event ∧ event.2 = .created token issued)
        ∨ ∃ rest, later = event :: rest ∧ Issued history rest creation token issued := by
  constructor
  · rintro ⟨earlier, same, created⟩
    cases later with
    | nil =>
        obtain ⟨rfl, rfl⟩ := List.cons.inj same
        exact .inl ⟨rfl, rfl, created⟩
    | cons head rest =>
        obtain ⟨rfl, rfl⟩ := List.cons.inj same
        exact .inr ⟨rest, rfl, earlier, rfl, created⟩
  · rintro (⟨rfl, rfl, created⟩ | ⟨rest, rfl, earlier, rfl, created⟩)
    · exact ⟨history, rfl, created⟩
    · exact ⟨earlier, rfl, created⟩

theorem lastUse_returned {sessionId : UUID} (returned : Returns sessionId event = true)
    : lastUse sessionId creation (event :: later) = event.1.now := by
  simp [lastUse, returned]

theorem lastUse_unreturned {sessionId : UUID} (unreturned : Returns sessionId event = false)
    : lastUse sessionId creation (event :: later) = lastUse sessionId creation later := by
  simp [lastUse, unreturned]

/-- The last use of an issued session is no later than the history. -/
theorem lastUse_le {now : Instant} (timely : ∀ event ∈ history, event.1.now ≤ now)
    (issue : Issued history later creation token issued) (sessionId : UUID)
    : lastUse sessionId creation later ≤ now := by
  obtain ⟨earlier, rfl, _⟩ := issue
  unfold lastUse
  cases found : later.find? (Returns sessionId) with
  | none => exact timely creation (by simp)
  | some use => exact timely use (by simp [List.mem_of_find?_eq_some found])

/-- A row of the same issue. -/
structure SameIssue (row new : Session) : Prop where
  id : new.id = row.id
  userId : new.userId = row.userId
  transport : new.transport = row.transport
  tokenHash : new.tokenHash = row.tokenHash
  expiresAt : new.expiresAt = row.expiresAt

theorem SameIssue.refl (row : Session) : SameIssue row row := ⟨rfl, rfl, rfl, rfl, rfl⟩

theorem SameIssue.write (columns : SessionColumns) (row : Session)
    : SameIssue row (columns.write row) :=
  ⟨rfl, rfl, rfl, rfl, rfl⟩

/-- An event revokes the issued session when it revokes its row. -/
theorem Follows.covers (follows : Follows runtime tokens later creation token issued row)
    (event : SessionEvent)
    : Covers issued event ↔ Covers row event := by
  obtain ⟨⟨now, request⟩, answer⟩ := event
  cases request <;> cases answer <;>
    simp [Covers, follows.id, follows.userId, follows.transport]

/-- An event that does not return a session leaves its row right if it revokes it when it has
to.
-/
theorem Follows.unreturned {new : Session}
    (follows : Follows runtime tokens later creation token issued row)
    (same : SameIssue row new) (seen : new.lastSeenAt = row.lastSeenAt)
    (fate : new.revokedAt = none ↔ row.revokedAt = none ∧ ¬ Covers row event)
    (unreturned : Returns row.id event = false)
    : Follows runtime tokens (event :: later) creation token issued new where
  known := follows.known
  present := follows.present
  id := same.id.trans follows.id
  userId := same.userId.trans follows.userId
  transport := same.transport.trans follows.transport
  tokenHash := same.tokenHash.trans follows.tokenHash
  expiresAt := same.expiresAt.trans follows.expiresAt
  unrevoked := by
    rw [fate, follows.unrevoked, List.forall_mem_cons, follows.covers]
    exact And.comm
  seenBefore := by
    rw [lastUse_unreturned (follows.id ▸ unreturned), seen]
    exact follows.seenBefore
  seenLately := by
    rw [lastUse_unreturned (follows.id ▸ unreturned), seen]
    exact follows.seenLately

/-- An event that returns a session leaves its row right if it was seen within the debounce. -/
theorem Follows.returned {new : Session}
    (follows : Follows runtime tokens later creation token issued row)
    (same : SameIssue row new) (revokedAt : new.revokedAt = row.revokedAt)
    (uncovered : ¬ Covers row event) (returned : Returns row.id event = true)
    (seenBefore : new.lastSeenAt ≤ event.1.now)
    (seenLately : event.1.now ≤ new.lastSeenAt + minutes lastSeenDebounceMinutes)
    : Follows runtime tokens (event :: later) creation token issued new where
  known := follows.known
  present := follows.present
  id := same.id.trans follows.id
  userId := same.userId.trans follows.userId
  transport := same.transport.trans follows.transport
  tokenHash := same.tokenHash.trans follows.tokenHash
  expiresAt := same.expiresAt.trans follows.expiresAt
  unrevoked := by
    rw [revokedAt, follows.unrevoked, List.forall_mem_cons, follows.covers]
    exact ⟨fun all => ⟨uncovered, all⟩, fun all => all.2⟩
  seenBefore := by
    rw [lastUse_returned (follows.id ▸ returned)]
    exact seenBefore
  seenLately := by
    rw [lastUse_returned (follows.id ▸ returned)]
    exact seenLately

/-- An event that changes the rows in place keeps the invariant if each row goes on following.
-/
theorem Tells.rewrite (tells : Tells runtime tokens history db) {after : Database}
    (change : Session → Session) (same : after.sessions = db.sessions.map change)
    (uncreated : ∀ token session, event.2 ≠ .created token session)
    (follows
      : ∀ row ∈ db.sessions, ∀ later creation token issued,
          Issued history later creation token issued
          → Follows runtime tokens later creation token issued row
          → Follows runtime tokens (event :: later) creation token issued (change row))
    : Tells runtime tokens (event :: history) after := by
  constructor
  · intro row member
    rw [same] at member
    obtain ⟨old, stored, rfl⟩ := List.mem_map.mp member
    obtain ⟨later, creation, token, issued, issue, followed⟩ := tells.stored old stored
    exact ⟨event :: later, creation, token, issued, issued_cons.mpr (.inr ⟨later, rfl, issue⟩),
      follows old stored later creation token issued issue followed⟩
  · intro later creation token issued issue
    rcases issued_cons.mp issue with ⟨_, _, created⟩ | ⟨rest, rfl, before⟩
    · exact absurd created (uncreated token issued)
    · obtain ⟨old, stored, followed⟩ := tells.issued rest creation token issued before
      refine ⟨change old, ?_, follows old stored rest creation token issued before followed⟩
      rw [same]
      exact List.mem_map_of_mem stored

/-- An event that changes no row keeps the invariant if it returns nothing, and revokes only
what is already revoked.
-/
theorem Tells.idle (tells : Tells runtime tokens history db)
    (uncreated : ∀ token session, event.2 ≠ .created token session)
    (unreturned : ∀ sessionId, Returns sessionId event = false)
    (revoked : ∀ row ∈ db.sessions, Covers row event → row.revokedAt ≠ none)
    : Tells runtime tokens (event :: history) db := by
  refine tells.rewrite id (by simp) uncreated ?_
  intro row stored later creation token issued _ follows
  refine follows.unreturned (SameIssue.refl row) rfl ?_ (unreturned row.id)
  exact ⟨fun active => ⟨active, fun covers => revoked row stored covers active⟩, And.left⟩

/-- A creation keeps the invariant if its row follows from the start. -/
theorem Tells.append (tells : Tells runtime tokens history db) {after : Database}
    {call : TimedRequest} {new : Session} (same : after.sessions = db.sessions ++ [new])
    (follows : Follows runtime tokens [] (call, .created token new) token new new)
    : Tells runtime tokens ((call, .created token new) :: history) after := by
  have goesOn {row : Session} {later : List SessionEvent} {creation : SessionEvent}
      {oldToken : String} {issued : Session}
      (followed : Follows runtime tokens later creation oldToken issued row)
      : Follows runtime tokens ((call, .created token new) :: later) creation oldToken issued
          row := by
    have uncovered : ¬ Covers row (call, .created token new) := by
      obtain ⟨_, request⟩ := call
      cases request <;> exact not_false
    exact followed.unreturned (SameIssue.refl row) rfl (by simp [uncovered]) rfl
  constructor
  · intro row member
    rw [same] at member
    rcases List.mem_append.mp member with old | fresh
    · obtain ⟨later, creation, oldToken, issued, issue, followed⟩ := tells.stored row old
      exact ⟨_, creation, oldToken, issued, issued_cons.mpr (.inr ⟨later, rfl, issue⟩),
        goesOn followed⟩
    · obtain rfl := List.mem_singleton.mp fresh
      exact ⟨[], _, token, row, issued_cons.mpr (.inl ⟨rfl, rfl, rfl⟩), follows⟩
  · intro later creation oldToken issued issue
    rcases issued_cons.mp issue with ⟨rfl, rfl, created⟩ | ⟨rest, rfl, before⟩
    · cases created
      exact ⟨new, by simp [same], follows⟩
    · obtain ⟨old, stored, followed⟩ := tells.issued rest creation oldToken issued before
      exact ⟨old, by simp [same, stored], goesOn followed⟩

/-- An event that revokes some rows in place keeps the invariant if these are the unrevoked
rows that it covers.
-/
theorem Tells.revoke (tells : Tells runtime tokens history db) {after : Database}
    {now : Instant} {reason : String} (matching : Session → Bool)
    (same
      : after.sessions
        = rewriteWhere matching (revocation now reason).write db.sessions)
    (uncreated : ∀ token session, event.2 ≠ .created token session)
    (unreturned : ∀ sessionId, Returns sessionId event = false)
    (matched : ∀ row ∈ db.sessions, row.revokedAt = none
      → (matching row = true ↔ Covers row event))
    : Tells runtime tokens (event :: history) after := by
  refine tells.rewrite _ same uncreated ?_
  intro row stored later creation token issued _ follows
  cases hit : matching row with
  | true =>
      refine follows.unreturned (SameIssue.write _ row) rfl ?_ (unreturned row.id)
      refine iff_of_false nofun ?_
      rintro ⟨active, uncovered⟩
      exact uncovered ((matched row stored active).mp hit)
  | false =>
      refine follows.unreturned (SameIssue.refl row) rfl ?_ (unreturned row.id)
      refine ⟨fun active => ⟨active, ?_⟩, And.left⟩
      intro covers
      have hitAlso := (matched row stored active).mpr covers
      rw [hit] at hitAlso
      cases hitAlso

-----------------------------------------------------------------------------------------
-- The calls keep the invariant
-----------------------------------------------------------------------------------------

/-- The event of a call. -/
def eventOf (runtime : Runtime) (db : Database) (call : TimedRequest) : SessionEvent :=
  (call, (serveSession runtime db call).1)

/-- The invariant after a call. -/
def TellsAfter (runtime : Runtime) (tokens : String → Prop) (history : List SessionEvent)
    (db : Database) (call : TimedRequest)
    : Prop :=
  Tells runtime tokens (eventOf runtime db call :: history) (serveSession runtime db call).2

section Calls

variable {now : Instant}

/-- The invariant after a call is the invariant of what the call answers and commits. -/
theorem Tells.after {call : TimedRequest} {answer : SessionAnswer} {after : Database}
    (tells : Tells runtime tokens ((call, answer) :: history) after)
    (ended : serveSession runtime db call = (answer, after))
    : TellsAfter runtime tokens history db call := by
  rw [TellsAfter, eventOf, ended]
  exact tells

/-- A call that raises changes nothing. -/
theorem Tells.raised (tells : Tells runtime tokens history db) (call : TimedRequest)
    : Tells runtime tokens ((call, .raised) :: history) db := by
  refine tells.idle (fun _ _ => nofun) (fun _ => rfl) ?_
  intro row _ covers
  obtain ⟨now, request⟩ := call
  cases request <;> cases covers

/-- A new row is what has happened to it when nothing has. -/
theorem Follows.new {draws : Draws} {userId : UUID} {transport : SessionTransport}
    {userAgent : Option String} {ipAddress : Option IpAddress}
    (presents : tokens draws.token ∧ draws.token ≠ "") (creation : SessionEvent)
    (created : creation.1.now = now)
    : let new := newSession runtime draws now userId transport userAgent ipAddress
      Follows runtime tokens [] creation draws.token new new := by
  subst created
  exact
    {
      known := presents.1
      present := presents.2
      id := rfl
      userId := rfl
      transport := rfl
      tokenHash := rfl
      expiresAt := rfl
      unrevoked := iff_of_true rfl (by simp)
      seenBefore := Int.le_refl creation.1.now
      seenLately := Int.le_add_of_nonneg_right debounce_nonneg
    }

theorem Tells.create (tells : Tells runtime tokens history db) {draws : Draws} {userId : UUID}
    {transport : SessionTransport} {userAgent : Option String} {ipAddress : Option IpAddress}
    (presents : tokens draws.token ∧ draws.token ≠ "")
    : TellsAfter runtime tokens history db
        ⟨now, .create draws userId transport userAgent ipAddress⟩ := by
  by_cases accepted
      : db.AcceptsSession (newSession runtime draws now userId transport userAgent ipAddress)
  · have created
        : Tells runtime tokens
            ((⟨now, .create draws userId transport userAgent ipAddress⟩, .created draws.token _)
              :: history)
            (db.withSession _ accepted) :=
      tells.append rfl (Follows.new presents _ rfl)
    refine created.after ?_
    simp only [serveSession, (createSession_commits accepted).perform]
    rfl
  · obtain ⟨error, rejected⟩ := createSession_rejected accepted
    refine (tells.raised _).after ?_
    simp only [serveSession, rejected.perform]
    rfl

/-- A lookup that returns a session has it seen now, or within the debounce before. -/
theorem Follows.looked {sess : Session} (live : liveSession runtime now token db = some sess)
    (timely : ∀ event ∈ history, event.1.now ≤ now) (member : row ∈ db.sessions) {asked : String}
    (issue : Issued history later creation asked issued)
    (follows : Follows runtime tokens later creation asked issued row)
    : Follows runtime tokens ((⟨now, .lookup token⟩, .found (some (seen now sess))) :: later)
        creation asked issued
        (if row.id = sess.id ∧ Stale now sess then { row with lastSeenAt := now } else row) := by
  obtain ⟨_, found, _⟩ := liveSession_found live
  by_cases same : row.id = sess.id
  · obtain rfl : row = sess := eq_of_key_eq db.sessionIds member (findBy_sound found).1 same
    have returned
        : Returns row.id (⟨now, .lookup token⟩, .found (some (seen now row))) = true := by
      simp [Returns, seen_id]
    by_cases stale : Stale now row
    · rw [if_pos ⟨rfl, stale⟩]
      exact follows.returned ⟨rfl, rfl, rfl, rfl, rfl⟩ rfl not_false returned (Int.le_refl now)
        (Int.le_add_of_nonneg_right debounce_nonneg)
    · -- the debounce leaves the row as it is, so it was seen within the debounce
      rw [if_neg (fun both => stale both.2)]
      have seenBefore := Int.le_trans follows.seenBefore (lastUse_le timely issue issued.id)
      refine follows.returned (SameIssue.refl row) rfl not_false returned seenBefore ?_
      exact Int.le_add_of_sub_left_le (Int.not_lt.mp stale)
  · rw [if_neg (fun both => same both.1)]
    have unreturned
        : Returns row.id (⟨now, .lookup token⟩, .found (some (seen now sess))) = false := by
      simp [Returns, seen_id, Ne.symm same]
    exact follows.unreturned (SameIssue.refl row) rfl (by simp [Covers]) unreturned

theorem Tells.lookup (tells : Tells runtime tokens history db)
    (timely : ∀ event ∈ history, event.1.now ≤ now)
    : TellsAfter runtime tokens history db ⟨now, .lookup token⟩ := by
  cases live : liveSession runtime now token db with
  | none =>
      have nothing : Tells runtime tokens ((⟨now, .lookup token⟩, .found none) :: history) db :=
        tells.idle (by simp) (fun _ => rfl) (fun _ _ covers => absurd covers not_false)
      refine nothing.after ?_
      simp only [serveSession, (lookupSession_rejects live).perform]
      rfl
  | some sess =>
      have touched
          : (touch now sess db).sessions
            = db.sessions.map (fun row =>
                if row.id = sess.id ∧ Stale now sess then { row with lastSeenAt := now }
                else row) := by
        unfold touch
        by_cases stale : Stale now sess <;>
          simp [stale, Database.writeSession_sessions, rewriteWhere, SessionColumns.write]
      have rewritten
          : Tells runtime tokens ((⟨now, .lookup token⟩, .found (some (seen now sess))) :: history)
              (touch now sess db) := by
        refine tells.rewrite _ touched (by simp) ?_
        intro row member later creation asked issued issue follows
        exact follows.looked live timely member issue
      refine rewritten.after ?_
      simp only [serveSession, (lookupSession_finds live).perform]
      rfl

theorem Tells.revokeOne (tells : Tells runtime tokens history db) {sessionId : UUID}
    {reason : String}
    : TellsAfter runtime tokens history db ⟨now, .revoke sessionId reason⟩ := by
  by_cases active : ∃ sess, db.sessionById sessionId = some sess ∧ sess.revokedAt = none
  · obtain ⟨sess, found, unrevoked⟩ := active
    by_cases fits : FitsString 40 reason
    · have revoked
          : Tells runtime tokens ((⟨now, .revoke sessionId reason⟩, .revoked true) :: history)
              (db.writeSession sessionId (revocation now reason)) := by
        refine tells.revoke (fun row => row.id = sessionId) rfl (fun _ _ => nofun) (fun _ => rfl) ?_
        intro row _ _
        simp [Covers, eq_comm]
      refine revoked.after ?_
      simp only [serveSession, (revokeSession_revokes found unrevoked fits).perform]
      rfl
    · refine (tells.raised _).after ?_
      simp only [serveSession, (revokeSession_rejected found unrevoked fits).perform]
      rfl
  · have idle : ∀ sess, db.sessionById sessionId = some sess → sess.revokedAt ≠ none :=
      fun sess found unrevoked => active ⟨sess, found, unrevoked⟩
    have nothing
        : Tells runtime tokens ((⟨now, .revoke sessionId reason⟩, .revoked false) :: history)
            db := by
      refine tells.idle (fun _ _ => nofun) (fun _ => rfl) ?_
      intro row stored covers
      exact idle row ((findBy_eq_some_iff db.sessionIds).mpr ⟨stored, Eq.symm covers⟩)
    refine nothing.after ?_
    simp only [serveSession, (revokeSession_idle idle).perform]
    rfl

theorem Tells.revokeMany (tells : Tells runtime tokens history db) {userId : UUID}
    {reason : String} {transport : Option SessionTransport}
    : TellsAfter runtime tokens history db ⟨now, .revokeAll userId reason transport⟩ := by
  by_cases none_ : activeSessions userId transport db = []
  · have nothing
        : Tells runtime tokens
            ((⟨now, .revokeAll userId reason transport⟩, .revokedAll 0) :: history) db := by
      refine tells.idle (fun _ _ => nofun) (fun _ => rfl) ?_
      intro row stored covers unrevoked
      have selected := (mem_activeSessions_id stored).mpr ⟨covers.1.symm, unrevoked, covers.2⟩
      rw [none_] at selected
      cases selected
    refine nothing.after ?_
    simp only [serveSession, (revokeAllUserSessions_idle none_).perform]
    rfl
  · by_cases fits : FitsString 40 reason
    · have revoked
          : Tells runtime tokens
              ((⟨now, .revokeAll userId reason transport⟩,
                  .revokedAll (activeSessions userId transport db).length)
                :: history)
              (revokeAll now reason (activeSessions userId transport db) db) := by
        refine tells.revoke _ (revokeAll_sessions _ db) (fun _ _ => nofun) (fun _ => rfl) ?_
        intro row stored unrevoked
        rw [decide_eq_true_eq, mem_activeSessions_id stored]
        simp [Covers, unrevoked, eq_comm]
      refine revoked.after ?_
      simp only [serveSession, (revokeAllUserSessions_revokes none_ fits).perform]
      rfl
    · refine (tells.raised _).after ?_
      simp only [serveSession, (revokeAllUserSessions_rejected none_ fits).perform]
      rfl

end Calls

/-- After every run the sessions of the database are those of the history, by induction on the
run with one case for each call.
-/
theorem SessionRuns.tells {initial : Database}
    (ran : SessionRuns runtime tokens initial history db)
    : Tells runtime tokens history db := by
  refine Runs.invariant (Tells runtime tokens) ?_ ?_ ran.2
  · constructor
    · intro row stored
      rw [ran.1] at stored
      cases stored
    · rintro later creation token issued ⟨earlier, none_, _⟩
      simp at none_
  · intro history db event after _ tells stepped
    obtain ⟨⟨now, request⟩, answer⟩ := event
    obtain ⟨permitted, served⟩ := stepped
    have ended : (answer, after) = serveSession runtime db ⟨now, request⟩ := served.symm
    obtain ⟨rfl, rfl⟩ := Prod.mk.inj ended
    cases request with
    | create draws userId transport userAgent ipAddress =>
        exact tells.create permitted.presents
    | lookup token => exact tells.lookup permitted.later
    | revoke sessionId reason => exact tells.revokeOne
    | revokeAll userId reason transport => exact tells.revokeMany

/-- What was seen within the idle time was used within it, for use is never before sight. -/
theorem used_within {now seen used idle : Int} (recent : now - idle ≤ seen)
    (before : seen ≤ used)
    : now ≤ used + idle := by
  omega

/-- What was used within the idle time less the debounce was seen within the idle time. -/
theorem seen_within {now seen used idle debounce : Int}
    (recent : now ≤ used + (idle - debounce)) (lately : used ≤ seen + debounce)
    : now - idle ≤ seen := by
  omega

/-- After every run a lookup returns only sessions that the history shows as valid with seven
days of idle time, and it does return those that are valid with five minutes less. So the
debounce may shorten the idle window by at most its own length, and never lengthens it.
-/
theorem lookupSession_validity (runtime : Runtime) (tokens : String → Prop)
    (injective : CollisionFree runtime tokens) (initial : Database)
    (history : List SessionEvent) (db : Database)
    (ran : SessionRuns runtime tokens initial history db) (now : Instant) (token : String)
    (permitted : PermittedRequest tokens history ⟨now, .lookup token⟩)
    : (∀ sess, ((lookupSession runtime now token).perform db).1 = .ok (some sess)
          → ValidFor history token sess.id now (days 7))
      ∧ (∀ sessionId, ValidFor history token sessionId now (days 7 - minutes 5)
          → ∃ sess,
              ((lookupSession runtime now token).perform db).1 = .ok (some sess)
              ∧ sess.id = sessionId) := by
  have tells := ran.tells
  constructor
  · intro returned answered
    cases live : liveSession runtime now token db with
    | none =>
        rw [(lookupSession_rejects live).perform] at answered
        cases answered
    | some sess =>
        rw [(lookupSession_finds live).perform] at answered
        cases answered
        obtain ⟨_, found, alive⟩ := liveSession_found live
        obtain ⟨stored, hash⟩ := findBy_sound found
        obtain ⟨later, creation, again, issued, issue, follows⟩ := tells.stored sess stored
        have sameHash := follows.tokenHash.symm.trans hash
        obtain rfl : again = token :=
          injective again token follows.known permitted.presents sameHash
        have unexpired := alive.unexpired
        rw [follows.expiresAt] at unexpired
        refine ⟨later, creation, issued, issue, ?_, unexpired,
          follows.unrevoked.mp alive.unrevoked, ?_⟩
        · rw [seen_id, follows.id]
        · rw [seen_id, follows.id]
          exact used_within alive.recent follows.seenBefore
  · rintro sessionId ⟨later, creation, issued, issue, rfl, unexpired, uncovered, recent⟩
    obtain ⟨row, stored, follows⟩ := tells.issued later creation token issued issue
    have found : db.sessionByTokenHash (hashToken runtime token) = some row :=
      (findBy_eq_some_iff db.sessionTokenHashes).mpr ⟨stored, follows.tokenHash⟩
    have alive : Live now row := by
      refine ⟨follows.unrevoked.mpr uncovered, ?_, ?_⟩
      · rw [follows.expiresAt]
        exact unexpired
      · exact seen_within recent follows.seenLately
    have live : liveSession runtime now token db = some row := by
      unfold liveSession
      rw [if_neg follows.present, found]
      simp [alive]
    refine ⟨seen now row, congrArg Prod.fst (lookupSession_finds live).perform, ?_⟩
    rw [seen_id, follows.id]

/-- A cookie session of the sample user, created at time 0. -/
def sampleCreation : TimedRequest :=
  ⟨0, .create ⟨"a", 1, "somesalt"⟩ 7 .cookie none none⟩

/-- The session is returned one microsecond after its creation. -/
theorem sampleCreation_validates
    : ∃ sess,
        ((lookupSession sampleRuntime 1 "a").perform
          (serveSession sampleRuntime sampleDatabase sampleCreation).2).1
        = .ok (some sess)
        ∧ sess.id = 1 := by
  have ran
      : SessionRuns sampleRuntime (· = "a") sampleDatabase
          [eventOf sampleRuntime sampleDatabase sampleCreation]
          (serveSession sampleRuntime sampleDatabase sampleCreation).2 :=
    ⟨rfl, .next .start ⟨⟨⟨rfl, by decide⟩, fun _ => nofun⟩, rfl⟩⟩
  have valid
      : ValidFor [eventOf sampleRuntime sampleDatabase sampleCreation] "a" 1 1
          (days 7 - minutes 5) := by
    refine ⟨[], eventOf sampleRuntime sampleDatabase sampleCreation, _, ⟨[], rfl, rfl⟩, rfl,
      ?_, by simp, ?_⟩
    · simp [eventOf, sampleCreation, days]
    · simp [lastUse, eventOf, sampleCreation, days, minutes]
  have collisionFree : CollisionFree sampleRuntime (· = "a") :=
    fun left right isLeft isRight _ => isLeft.trans isRight.symm
  exact (lookupSession_validity sampleRuntime (· = "a") collisionFree sampleDatabase _ _ ran 1
    "a" ⟨rfl, by simp [eventOf, sampleCreation]⟩).2 1 valid

end SpecterCloud.Auth
