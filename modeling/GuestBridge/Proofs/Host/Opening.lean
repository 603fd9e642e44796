import GuestBridge.Proofs.Host.Identity
import GuestBridge.Proofs.Operation.Calls

/-!
# What comes of an attempt to open a session

An instance was made, and its export table may hold anything. `Resolves` says what an attempt to
open a session with it comes to: a refusal that names all that is lacking, a refusal that shows the
first signature that does not fit, or a session. Every operation on that session, at any later time,
calls the functions that the instance exports under the names of the callees, with just the words
that they take (`CallsFit`). `resolves` says that every attempt goes that way.
-/

namespace GuestBridge

variable {σ : Type}

/-- Each callee gets the function that is exported under its name. -/
def Exports.FoundIn (exports : Exports σ) (table : ExportTable σ) : Prop :=
  ∀ (callee : Callee) type call, table.lookup callee.name = some (.func type call) →
    exports.function callee = call.map callee.handed

/-- Every call is a call of the function that is exported under the name of its callee, with just
the words that it takes. -/
def CallsFit (table : ExportTable σ) (actions : List (Action σ)) : Prop :=
  ∀ action ∈ actions, ∀ (callee : Callee) args ending, action.deed = .call callee args ending →
    ∃ type call tripwire, table.lookup callee.name = some (.func type call) ∧
      type.params = List.replicate args.length .i32 ∧
      ending = (call args tripwire action.found).ending.map callee.handed

theorem ExportTable.Provides.foundIn {table : ExportTable σ}
    {found : Callee → FuncType × GuestFunction σ (List Value)} (hprovides : table.Provides found) :
    (exportsOf found).FoundIn table := by
  intro callee type call hlookup
  rw [function_exportsOf, hprovides.eq_of_lookup hlookup]

/-- The packed exports of a session are those of its instance. -/
theorem Exports.FoundIn.packed_eq {exports : Exports σ} {table : ExportTable σ}
    (hfound : exports.FoundIn table) {entry : PackedExport} {type : FuncType}
    {call : GuestFunction σ (List Value)}
    (hlookup : table.lookup entry.name = some (.func type call)) :
    exports.packed entry = call :=
  (hfound (.packed entry) type call hlookup).trans (ExportTable.map_handed_packed entry call)

/-- Actions that fit functions found in a table fit the table, if its signatures do. -/
theorem callsFit_of_fits {exports : Exports σ} {table : ExportTable σ}
    (hfound : exports.FoundIn table) (hlacks : ∀ name, ¬table.Lacks name)
    (hadmits : ∀ (callee : Callee) type call,
      table.lookup callee.name = some (.func type call) → callee.Admits type)
    {actions : List (Action σ)} (hfits : ∀ action ∈ actions, action.Fits exports) :
    CallsFit table actions := by
  intro action hmem callee args ending hdeed
  obtain ⟨type, call, hlookup⟩ := ExportTable.exists_function hlacks callee
  have haction := hfits action hmem
  cases haction with
  | write | read | wipe => cases hdeed
  | call found callee args tripwire hcount =>
    cases hdeed
    refine ⟨type, call, tripwire, hlookup, ?_, ?_⟩
    · rw [hcount]
      exact (hadmits _ type call hlookup).params_eq
    · rw [hfound _ type call hlookup]
      rfl

namespace Host

variable {host : Host σ} {place : Nat} {entropy : Entropy} {blueprint : Blueprint σ}
  {table : ExportTable σ} {guest : Instance σ}

/-- What an attempt to open a session with an instance comes to. -/
structure Resolves (host : Host σ) (place : Nat) (entropy : Entropy) (table : ExportTable σ)
    (guest : Instance σ) : Prop where
  /-- If anything is lacking, the attempt is refused, and all that is lacking is named, once each
  and in ascending order of bytes. -/
  lacking : ∀ name, table.Lacks name → ∃ names,
    (host.step (.openSession place entropy)).answer = .refused (.missingExports names) ∧
    (∀ other, other ∈ names ↔ table.Lacks other) ∧
    names.Pairwise fun first second => Bytes.ofText first < Bytes.ofText second
  /-- Otherwise the first function whose signature does not fit is named, with the signature that it
  should have and the one that it has, both as signatures are written. -/
  misfit : (∀ name, ¬table.Lacks name) →
    ∀ before (callee : Callee) later type call, Callee.all = before ++ callee :: later →
      (∀ earlier ∈ before, ∀ type call,
        table.lookup (Callee.name earlier) = some (.func type call) → earlier.Admits type) →
      table.lookup callee.name = some (.func type call) → ¬callee.Admits type →
      ∃ expected actual, callee.signature.Written expected ∧ type.Written actual ∧
        (host.step (.openSession place entropy)).answer =
          .refused (.exportSignature callee.name expected actual)
  /-- Otherwise there is a session, which calls the functions found, and rightly so for ever. -/
  usable : (∀ name, ¬table.Lacks name) →
    (∀ (callee : Callee) type call,
      table.lookup callee.name = some (.func type call) → callee.Admits type) →
    ∃ exports : Exports σ,
      (host.step (.openSession place entropy)).answer =
        .opened host.sessions.length host.nextId ∧
      (host.step (.openSession place entropy)).host.session? host.sessions.length =
        some ⟨host.nextId, some ⟨exports, guest, .zero⟩⟩ ∧
      exports.FoundIn table ∧
      (∀ (entry : PackedExport) type call,
        table.lookup entry.name = some (.func type call) → exports.packed entry = call) ∧
      ∀ steps request, CallsFit table
        (((host.step (.openSession place entropy)).host.after steps).step
          (.perform host.sessions.length request)).actions

/-- An attempt is refused if the export table is. -/
theorem answer_of_resolve_error (hruntime : host.runtime? place = some ⟨some blueprint⟩)
    (hready : (blueprint entropy host.tripwire).birth = .ready table guest) {error : BridgeError}
    (hresolve : table.resolve = .error error) :
    (host.step (.openSession place entropy)).answer = .refused error := by
  simp only [step, openSession, hruntime, openFrom, Session.open?, hready, hresolve]

/-- An attempt opens a session with the functions found in the export table. -/
theorem opened_of_resolve_ok (hruntime : host.runtime? place = some ⟨some blueprint⟩)
    (hready : (blueprint entropy host.tripwire).birth = .ready table guest) {exports : Exports σ}
    (hresolve : table.resolve = .ok exports) :
    (host.step (.openSession place entropy)).answer = .opened host.sessions.length host.nextId ∧
      (host.step (.openSession place entropy)).host.sessions =
        host.sessions ++ [some ⟨host.nextId, some ⟨exports, guest, .zero⟩⟩] := by
  constructor <;>
    simp only [step, openSession, hruntime, openFrom, Session.open?, hready, hresolve]

/-- Later operations on a session call the functions that it was opened with. -/
theorem fits_after {id : UInt64} {exports : Exports σ}
    (hplace : place < host.sessions.length)
    (hopened : host.session? place = some ⟨id, some ⟨exports, guest, .zero⟩⟩)
    (steps : List (Step σ)) (request : Request) :
    ∀ action ∈ ((host.after steps).step (.perform place request)).actions,
      action.Fits exports := by
  cases hlater : (host.after steps).session? place with
  | none =>
    simp only [step, perform, hlater]
    exact fun _ hmem => absurd hmem List.not_mem_nil
  | some session =>
    simp only [step, perform, hlater]
    cases hlive : session.live with
    | none =>
      rw [Session.serve_of_closed hlive]
      exact fun _ hmem => absurd hmem List.not_mem_nil
    | some live =>
      obtain ⟨first, hfirst, hheir⟩ := inherits_after hplace hlater
      rw [hopened] at hfirst
      cases hfirst
      obtain ⟨before, hbefore, hsame⟩ := hheir.exports_eq live hlive
      cases hbefore
      have hfits := Session.fits_serve hlive (host.after steps).tripwire request
      rwa [hsame] at hfits

/-- Every attempt to open a session with an instance is resolved by the export table of the
instance, whatever the table holds. -/
theorem resolves (hruntime : host.runtime? place = some ⟨some blueprint⟩)
    (hready : (blueprint entropy host.tripwire).birth = .ready table guest) :
    Resolves host place entropy table guest where
  lacking name hlacks := by
    refine ⟨ExportTable.sortNames table.missing, ?_, fun other => ?_,
      ExportTable.ascending_sortNames table.nodup_missing⟩
    · exact answer_of_resolve_error hruntime hready (ExportTable.resolve_of_lacks hlacks)
    · rw [ExportTable.mem_sortNames_iff, ExportTable.mem_missing_iff]
  misfit hlacks before callee later type call horder hbefore hlookup hnot := by
    obtain ⟨found, hprovides⟩ := ExportTable.exists_provides hlacks
    have hfound := hprovides.eq_of_lookup hlookup
    refine ⟨callee.expected, type.describe, callee.written_expected,
      FuncType.written_iff.2 rfl, answer_of_resolve_error hruntime hready ?_⟩
    rw [hprovides.resolve_of_misfit horder
      (fun earlier hmem => hbefore earlier hmem _ _ (hprovides.function earlier))
      (by rwa [hfound]), hfound]
  usable hlacks hadmits := by
    obtain ⟨found, hprovides⟩ := ExportTable.exists_provides hlacks
    have hresolve := hprovides.resolve_of_fits fun callee =>
      hadmits callee _ _ (hprovides.function callee)
    obtain ⟨hanswer, hsessions⟩ := opened_of_resolve_ok hruntime hready hresolve
    have hplace :
        host.sessions.length < (host.step (.openSession place entropy)).host.sessions.length := by
      rw [hsessions, List.length_append]
      exact Nat.lt_succ_self _
    have hopened : (host.step (.openSession place entropy)).host.session? host.sessions.length =
        some ⟨host.nextId, some ⟨ExportTable.exportsOf found, guest, .zero⟩⟩ := by
      refine session?_of_slot ?_
      rw [hsessions, List.getElem?_concat_length]
    refine ⟨ExportTable.exportsOf found, hanswer, hopened, hprovides.foundIn,
      fun entry type call => hprovides.foundIn.packed_eq, fun steps request => ?_⟩
    exact callsFit_of_fits hprovides.foundIn hlacks hadmits
      (fits_after hplace hopened steps request)

/-- The idle guest is usable, so whatever is done in the process of its host, every call that an
operation on its session makes fits its exports. -/
theorem resolves_idleHost :
    ∃ blueprint, idleHost.runtime? 0 = some ⟨some blueprint⟩ ∧
      (blueprint (stream 3) idleHost.tripwire).birth =
        .ready idleTable ⟨.zeroed 1 1, (), stream 3⟩ ∧
      (idleHost.step (.openSession 0 (stream 3))).answer = .opened 0 1 ∧
      ∀ steps request, CallsFit idleTable
        (((idleHost.step (.openSession 0 (stream 3))).host.after steps).step
          (.perform 0 request)).actions := by
  have hlacks : ∀ name, ¬idleTable.Lacks name :=
    ExportTable.missing_eq_nil_iff.1 (by decide +kernel)
  have hadmits : ∀ (callee : Callee) type call,
      idleTable.lookup callee.name = some (.func type call) → callee.Admits type := by
    intro callee type call hlookup
    rcases callee with _ | _ | entry
    · cases hlookup
      rfl
    · cases hlookup
      rfl
    · cases entry <;> cases hlookup <;> rfl
  have hruntime : idleHost.runtime? 0 =
      some ⟨some fun entropy _ => ⟨[], .ready idleTable ⟨.zeroed 1 1, (), entropy⟩⟩⟩ := rfl
  have hresolves : Resolves idleHost 0 (stream 3) idleTable ⟨.zeroed 1 1, (), stream 3⟩ :=
    resolves hruntime rfl
  obtain ⟨exports, hanswer, -, -, -, hcalls⟩ := hresolves.usable hlacks hadmits
  exact ⟨_, hruntime, rfl, hanswer, hcalls⟩

end Host

end GuestBridge
