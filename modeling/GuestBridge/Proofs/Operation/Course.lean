import GuestBridge.Proofs.Operation.Body

/-!
# The course of an operation

The body of an operation acquires regions by a fixed plan (`Request.plan`): from which guest
functions, in which order, what the host copies into them and which of them hold a private key. A
`Course` is the whole way of an operation that was not refused: its body acquires the first few
regions of the plan, and then the release gets to some or all of them. `nonempty_course` says that
every such operation has one; the lemmas after it say what the trace tells of it.
-/

namespace GuestBridge

/-- The regions that the body acquires if nothing fails, in order. A new key comes first and then
its address; to sign, the message is placed, then the key, and the signature comes last; every other
operation has an operand and a result. -/
def Request.plan (request : Request) : Lease.Plan :=
  match request with
  | .newPrivateKey =>
    [⟨.packed .newPrivateKey, .secret, none⟩, ⟨.packed .getAddress, .plain, none⟩]
  | .sign privateKey message =>
    [⟨.alloc, .plain, some message⟩, ⟨.alloc, .secret, some privateKey⟩,
      ⟨.packed .sign, .plain, none⟩]
  | .formatMessage operand _ | .recoverMessage operand | .hashText operand | .hashBytes operand =>
    [⟨.alloc, .plain, some operand⟩, ⟨.packed request.entry, .plain, none⟩]

namespace Operation

open Lease

variable {σ α : Type}

/-! ## Bodies follow the plan -/

theorem walks_transformBody (exports : Exports σ) (entry : PackedExport) (input : Bytes)
    (extra : List UInt32) {read : Region → LeaseM σ α}
    (hread : ∀ region, Walks exports [] (read region)) :
    Walks exports [⟨.alloc, .plain, some input⟩, ⟨.packed entry, .plain, none⟩]
      (transformBody exports entry input extra read) :=
  (Walks.allocBytes exports input .plain).bind fun _ =>
    (Walks.callPacked exports entry _).bind hread

theorem walks_signBody (exports : Exports σ) (privateKey message : Bytes) :
    Walks exports (Request.sign privateKey message).plan (signBody exports privateKey message) :=
  (Walks.allocBytes exports message .plain).bind fun _ =>
    (Walks.allocBytes exports privateKey .secret).bind fun _ =>
      (Walks.callPacked exports .sign _).bind fun signature =>
        (Walks.expectLength .sign signatureSize signature).bind fun _ => .readText .sign signature

/-- What comes after the new key was marked as a secret. -/
def addressBody (exports : Exports σ) (key : Region) : LeaseM σ KeyPair := do
  expectLength .newPrivateKey privateKeySize key
  let privateKey ← read key
  let address ← callPacked exports .getAddress [key.ptr, key.len]
  expectLength .getAddress addressSize address
  let text ← readText .getAddress address
  pure ⟨privateKey, text⟩

theorem walks_addressBody (exports : Exports σ) (key : Region) :
    Walks exports [⟨.packed .getAddress, .plain, none⟩] (addressBody exports key) :=
  (Walks.expectLength .newPrivateKey privateKeySize key).bind fun _ =>
    (Walks.read key).bind fun _ =>
      (Walks.callPacked exports .getAddress _).bind fun address =>
        (Walks.expectLength .getAddress addressSize address).bind fun _ =>
          (Walks.readText .getAddress address).bind fun _ => .pure _

/-- Between two states of an operation, the lease was changed by moves only and a first part of the
plan was carried out. -/
def Follows (exports : Exports σ) (plan : Plan) (start middle : Lease σ) : Prop :=
  Reaches exports start middle ∧
    ∃ gains, gains.map Gain.milestone <+: plan ∧ Took gains start middle

theorem follows_of_walks {exports : Exports σ} {plan : Plan} {body : LeaseM σ α}
    (hwalk : Walks exports plan body) (start : Lease σ) :
    Follows exports plan start (final body start) := by
  obtain ⟨gains, hprefix, hpath⟩ := hwalk.final start
  exact ⟨hpath.reaches, gains, hprefix, hpath.took⟩

/-- The new key is marked right after it was taken over, before anything can fail. -/
theorem follows_newPrivateKeyBody (exports : Exports σ) {start : Lease σ}
    (hstart : start.held = []) :
    Follows exports Request.newPrivateKey.plan start (final (newPrivateKeyBody exports) start) := by
  have hbody : newPrivateKeyBody exports =
      (callPacked exports .newPrivateKey [] >>= fun key =>
        markSecret key >>= fun _ => addressBody exports key : LeaseM σ KeyPair) := rfl
  unfold final
  rw [hbody, bind_apply]
  rcases callPacked_cases exports .newPrivateKey [] start with
    ⟨key, heq, hstep⟩ | ⟨abort, after, heq, hstep⟩
  · rw [heq]
    let adopted := start.adopted exports .newPrivateKey [] key
    let marked : Lease σ := { adopted with held := markSecretIn key adopted.held }
    -- The key is the only region held, so marking it marks the right one.
    have hmarked : Reaches exports start marked :=
      .tail (.single (.advance hstep)) (.marked key)
    have htook : Took [⟨.packed .newPrivateKey, ⟨key, 0, .secret⟩, none⟩] start marked := by
      refine ⟨hstep.took.acquired, hstep.took.copied, ?_⟩
      have hheld : adopted.held = [⟨key, 0, .plain⟩] := by
        show start.held ++ [_] = _
        rw [hstart]; rfl
      show markSecretIn key adopted.held = _
      rw [hheld, hstart, markSecretIn, if_pos rfl]
      rfl
    obtain ⟨hreach, later, hprefix, hlater⟩ :=
      follows_of_walks (walks_addressBody exports key) marked
    refine ⟨hmarked.trans hreach, _, ?_, htook.trans hlater⟩
    exact List.cons_prefix_cons.2 ⟨rfl, hprefix⟩
  · rw [heq]
    exact ⟨.single (.advance hstep), [], List.nil_prefix, hstep.took⟩

theorem final_map {β : Type} (f : α → β) (body : LeaseM σ α) (start : Lease σ) :
    final (f <$> body) start = final body start := by
  unfold final
  rw [← bind_pure_comp, bind_apply]
  cases body start <;> rfl

/-- The body of every operation follows its plan. -/
theorem follows_body (exports : Exports σ) (request : Request) {start : Lease σ}
    (hstart : start.held = []) :
    Follows exports request.plan start (final (request.body exports) start) := by
  cases request with
  | newPrivateKey =>
    rw [Request.body, final_map]
    exact follows_newPrivateKeyBody exports hstart
  | sign privateKey message =>
    exact follows_of_walks ((walks_signBody exports privateKey message).map _) start
  | hashText message =>
    exact follows_of_walks
      ((walks_transformBody exports _ message [] (Walks.readText .hashMessage)).map _) start
  | formatMessage message | recoverMessage message | hashBytes message =>
    exact follows_of_walks ((walks_transformBody exports _ message _ Walks.read).map _) start

/-! ## The whole course -/

/-- The course of an operation that was not refused: a body that carries out a first part of the
plan, the release of what is held, and a report that may note a panic. -/
structure Course (exports : Exports σ) (request : Request) (start last : Lease σ) where
  /-- The regions acquired by the body. -/
  gains : List Gain
  /-- The lease when the release begins. -/
  middle : Lease σ
  releases : List (Release σ)
  /-- The lease when the release ends. -/
  settled : Lease σ
  notes : List SessionEvent
  blank : start.Blank
  planned : gains.map Gain.milestone <+: request.plan
  reaches : Reaches exports start middle
  took : Took gains start middle
  releasing : Releasing exports middle middle.held.reverse releases settled
  last_eq : last = { settled with events := settled.events ++ notes }
  notes_panic : ∀ note ∈ notes, ∃ error, note = .caughtPanic request.entry.name error

/-- The lease that is left once everything was given back does not depend on the outcome. -/
theorem settle_eq {α : Type} (exports : Exports σ) (outcome : Except Abort α) (lease : Lease σ) :
    (settle exports outcome lease).1 = final (releaseAll exports lease.held.reverse) lease := by
  unfold settle final
  cases releaseAll exports lease.held.reverse lease <;> rfl

theorem run_eq (exports : Exports σ) (body : LeaseM σ α) (start : Lease σ) :
    (run exports body start).1 =
      final (releaseAll exports (final body start).held.reverse) (final body start) := by
  unfold run
  rw [final.eq_def body]
  cases body start <;> exact settle_eq _ _ _

/-- Every operation that is not refused has a course. -/
theorem nonempty_course (exports : Exports σ) {request : Request} {start : Lease σ}
    (hcheck : request.check = .ok ()) (hblank : start.Blank) :
    Nonempty (Course exports request start (perform exports start request).lease) := by
  have hreport : perform exports start request =
      .ofRun request.entry.name (run exports (request.body exports) start) := by
    rw [perform_eq, hcheck]; rfl
  obtain ⟨hreaches, gains, hplanned, htook⟩ := follows_body exports request hblank.held_nil
  obtain ⟨releases, hreleasing⟩ := releasing_releaseAll exports
    (final (request.body exports) start).held.reverse (final (request.body exports) start)
  rw [← run_eq] at hreleasing
  rw [hreport]
  generalize run exports (request.body exports) start = result at hreleasing ⊢
  obtain ⟨settled, outcome⟩ := result
  have hplain : settled = { settled with events := settled.events ++ [] } := by
    rw [List.append_nil]
  rcases outcome with (error | payload) | product
  · exact ⟨⟨gains, _, releases, settled, [], hblank, hplanned, hreaches, htook, hreleasing, hplain,
      nofun⟩⟩
  · exact ⟨⟨gains, _, releases, settled, [.caughtPanic request.entry.name (.ofPanic payload)],
      hblank, hplanned, hreaches, htook, hreleasing, rfl,
      fun note hnote => ⟨_, List.mem_singleton.1 hnote⟩⟩⟩
  · exact ⟨⟨gains, _, releases, settled, [], hblank, hplanned, hreaches, htook, hreleasing, hplain,
      nofun⟩⟩

/-! ## What the trace tells of a course -/

namespace Course

variable {exports : Exports σ} {request : Request} {start last : Lease σ}

/-- At the end of its body, an operation holds what it acquired. -/
theorem held_eq (course : Course exports request start last) :
    course.middle.held = course.gains.map Gain.held := by
  rw [course.took.held, course.blank.held_nil, List.nil_append]

/-- The actions of an operation are those of its body and then those of its releases. -/
theorem actions_eq (course : Course exports request start last) :
    last.actions = course.middle.actions ++ course.releases.flatMap Release.actions :=
  (congrArg Lease.actions course.last_eq).trans course.releasing.actions

/-- An operation acquires all that it acquires in its body. -/
theorem acquisitions_eq (course : Course exports request start last) :
    acquisitions last.actions = course.gains.map Gain.acquisition := by
  rw [course.actions_eq, acquisitions_append, Release.acquisitions_flatMap_actions,
    List.append_nil, course.took.acquired, course.blank.actions_nil]
  rfl

/-- An operation copies something to guest memory only in its body. -/
theorem copies_eq (course : Course exports request start last) :
    copies last.actions = course.gains.filterMap Gain.copy? := by
  rw [course.actions_eq, copies_append, Release.copies_flatMap_actions, List.append_nil,
    course.took.copied, course.blank.actions_nil]
  rfl

theorem intact_middle (course : Course exports request start last) : course.middle.Intact :=
  course.reaches.intact course.blank.intact

/-- An operation calls the release function only when it gives regions back. -/
theorem deallocs_eq (course : Course exports request start last) :
    deallocs last.actions = course.releases.map Release.dealloc := by
  rw [course.actions_eq, deallocs_append, Release.deallocs_flatMap_actions,
    course.intact_middle.deallocs_nil, List.nil_append]

/-- An operation acquires no more regions than planned. -/
theorem length_acquisitions_le (course : Course exports request start last) :
    (acquisitions last.actions).length ≤ request.plan.length := by
  have := course.planned.length_le
  rwa [List.length_map, ← List.length_map Gain.acquisition, ← course.acquisitions_eq] at this

end Course

end Operation

/-- A session that is asked for an operation does nothing at all, because it is closed or the
request is refused, or the operation takes its course. -/
theorem Session.serve_cases {σ : Type} (session : Session σ) (tripwire : Option Tripwire)
    (request : Request) :
    ((session.serve tripwire request).actions = [] ∧
      (session.serve tripwire request).events = [] ∧
      (session.serve tripwire request).session = session) ∨
    ∃ live last, session.live = some live ∧
      Nonempty (Operation.Course live.exports request
        (Lease.start live.guest tripwire live.stats) last) ∧
      (session.serve tripwire request).actions = last.actions ∧
      (session.serve tripwire request).events = last.events ∧
      (session.serve tripwire request).session.live =
        some ⟨live.exports, last.guest, last.stats⟩ := by
  obtain ⟨id, none | live⟩ := session
  · exact .inl ⟨rfl, rfl, rfl⟩
  · cases hcheck : request.check with
    | error error =>
      have hlease : (Operation.perform live.exports (Lease.start live.guest tripwire live.stats)
          request).lease = Lease.start live.guest tripwire live.stats := by
        rw [Operation.perform_eq, hcheck]; rfl
      refine .inl ⟨congrArg Lease.actions hlease, congrArg Lease.events hlease, ?_⟩
      exact congrArg (fun lease : Lease σ =>
        (⟨id, some ⟨live.exports, lease.guest, lease.stats⟩⟩ : Session σ)) hlease
    | ok _ =>
      exact .inr ⟨live, _, rfl,
        Operation.nonempty_course live.exports hcheck (Lease.blank_start _ _ _), rfl, rfl, rfl⟩

end GuestBridge
