import GuestBridge.Proofs.Guest.Signature
import GuestBridge.Proofs.Text.Encoding
import Mathlib

/-!
# What a guest has to export

A guest may export anything under any name. `ExportTable.Lacks` says which of the required names are
absent or exported as something else, and `Callee.Admits` which signatures the host accepts for a
function: the allocator and the release function have exactly one, the others are free in their
results. The export table is resolved in that order. If names are lacking, all of them are reported
together and sorted (`resolve_of_lacks`). Otherwise the table provides a function for each callee
(`ExportTable.Provides`), and the first one whose signature does not fit is reported
(`Provides.resolve_of_misfit`). Otherwise the functions are kept, and although those that return a
packed word are then called by their places in a list, each callee gets the function that is
exported under its name (`function_exportsOf`).
-/

namespace GuestBridge

namespace Callee

/-- The functions that the host calls, in the order in which their signatures are checked. -/
def all : List Callee :=
  .alloc :: .dealloc :: PackedExport.all.map .packed

theorem mem_all (callee : Callee) : callee ∈ all := by
  rcases callee with _ | _ | entry
  · exact List.mem_cons_self
  · exact List.mem_cons_of_mem _ List.mem_cons_self
  · exact List.mem_cons_of_mem _ (List.mem_cons_of_mem _ (List.mem_map_of_mem entry.mem_all))

example : all.map name =
    ["alloc", "dealloc", "new_private_key", "get_address", "sign", "hash_message",
      "hash_message_bytes", "format_message", "formatted_message_to_bytes"] := by decide

/-- The number of words that a function takes. -/
def arity : Callee → Nat
  | .alloc => 1
  | .dealloc => 2
  | .packed entry => entry.arity

/-- The signature that a function should have. -/
def signature : Callee → FuncType
  | .alloc => allocSignature
  | .dealloc => deallocSignature
  | .packed entry => entry.signature

/-- The text that is kept for the signature that a function should have is how it is written. -/
theorem written_expected (callee : Callee) : callee.signature.Written callee.expected := by
  rw [FuncType.written_iff]
  rcases callee with _ | _ | entry
  · rfl
  · rfl
  · cases entry <;> rfl

/-- Whether the host accepts a signature for a function. What a packed export returns is judged call
by call, so its results are free. -/
def Admits (type : FuncType) : Callee → Prop
  | .packed entry => type.params = List.replicate entry.arity .i32
  | callee => type = callee.signature

instance (type : FuncType) : (callee : Callee) → Decidable (callee.Admits type)
  | .alloc => inferInstanceAs (Decidable (type = allocSignature))
  | .dealloc => inferInstanceAs (Decidable (type = deallocSignature))
  | .packed entry => inferInstanceAs (Decidable (type.params = List.replicate entry.arity .i32))

/-- A function takes just the words that its callee is called with. -/
theorem Admits.params_eq {type : FuncType} {callee : Callee} (hadmits : callee.Admits type) :
    type.params = List.replicate callee.arity .i32 := by
  cases callee with
  | alloc | dealloc =>
    have htype : type = _ := hadmits
    rw [htype]
    rfl
  | packed entry => exact hadmits

/-- Checks the signature of a function. -/
def check (callee : Callee) (type : FuncType) : Except BridgeError Unit :=
  ExportTable.expectSignature callee type (decide (callee.Admits type))

theorem check_of_admits {callee : Callee} {type : FuncType} (hadmits : callee.Admits type) :
    callee.check type = .ok () := by
  rw [check, ExportTable.expectSignature, decide_eq_true hadmits, if_pos rfl]

theorem check_of_not_admits {callee : Callee} {type : FuncType} (hnot : ¬callee.Admits type) :
    callee.check type = .error (.exportSignature callee.name callee.expected type.describe) := by
  rw [check, ExportTable.expectSignature, decide_eq_false hnot, if_neg Bool.false_ne_true]

theorem check_packed (entry : PackedExport) (type : FuncType) :
    (Callee.packed entry).check type = ExportTable.checkPacked entry type := by
  have hwords : decide (Admits type (.packed entry)) =
      (type.params.length == entry.arity && type.params.all (· == .i32)) := by
    rw [Bool.eq_iff_iff, decide_eq_true_iff, Bool.and_eq_true, beq_iff_eq, List.all_eq_true]
    simp only [beq_iff_eq]
    exact List.eq_replicate_iff
  rw [check, ExportTable.checkPacked, hwords]

/-- What a function hands to the host, from the values that it returned. -/
def handed : (callee : Callee) → List Value → callee.Result
  | .alloc => ExportTable.wordOf
  | .dealloc => fun _ => ()
  | .packed _ => id

end Callee

/-- Checks that all succeed succeed one after another. -/
theorem forM_eq_ok {α ε : Type} {check : α → Except ε Unit} {items : List α}
    (hall : ∀ item ∈ items, check item = .ok ()) : items.forM check = .ok () := by
  induction items with
  | nil => rfl
  | cons item rest ih =>
    obtain ⟨hfirst, hrest⟩ := List.forall_mem_cons.1 hall
    show (check item >>= fun _ => rest.forM check) = _
    rw [hfirst]
    exact ih hrest

/-- If checks fail one after another, one of them fails. -/
theorem exists_of_forM_eq_error {α ε : Type} {check : α → Except ε Unit} {items : List α}
    {error : ε} (hfails : items.forM check = .error error) : ∃ item ∈ items, check item = .error error := by
  induction items with
  | nil => cases hfails
  | cons item rest ih =>
    have hcons : (item :: rest).forM check = (check item >>= fun _ => rest.forM check) := rfl
    cases hitem : check item with
    | error other =>
      rw [hcons, hitem] at hfails
      cases hfails
      exact ⟨item, List.mem_cons_self, hitem⟩
    | ok _ =>
      rw [hcons, hitem] at hfails
      obtain ⟨failing, hmem, hfailing⟩ := ih hfails
      exact ⟨failing, List.mem_cons_of_mem _ hmem, hfailing⟩

namespace ExportTable

variable {σ : Type} {table : ExportTable σ} {callee : Callee} {type : FuncType}
  {call : GuestFunction σ (List Value)}

/-- A required name is absent or exported as something else: the memory has to be a memory, and
everything else a function. -/
inductive Lacks (table : ExportTable σ) : String → Prop
  | memory (hother : table.lookup memoryName ≠ some .memory) : Lacks table memoryName
  | function (callee : Callee)
      (hother : ∀ type call, table.lookup callee.name ≠ some (.func type call)) :
      Lacks table callee.name

/-! ## Lacking names -/

theorem hasMemory_iff : table.hasMemory = true ↔ table.lookup memoryName = some .memory := by
  unfold hasMemory
  cases hlookup : table.lookup memoryName with
  | none => simp
  | some found => cases found <;> simp

theorem function?_eq_some_iff {name : String} :
    table.function? name = some (type, call) ↔ table.lookup name = some (.func type call) := by
  unfold function?
  cases hlookup : table.lookup name with
  | none => simp
  | some found => cases found <;> simp

theorem isSome_function?_iff {name : String} : (table.function? name).isSome = true ↔
    ∃ type call, table.lookup name = some (.func type call) := by
  rw [Option.isSome_iff_exists]
  simp only [Prod.exists, function?_eq_some_iff]

theorem mem_lacking_iff {other name : String} {isFound : Bool} :
    other ∈ lacking name isFound ↔ other = name ∧ ¬isFound = true := by
  cases isFound <;> simp [lacking]

/-- The names that are collected are those that are lacking. -/
theorem mem_missing_iff {name : String} : name ∈ table.missing ↔ table.Lacks name := by
  unfold missing
  simp only [List.mem_append, List.mem_flatMap, mem_lacking_iff, hasMemory_iff,
    isSome_function?_iff, not_exists]
  constructor
  · rintro (((⟨rfl, hother⟩ | ⟨rfl, hother⟩) | ⟨rfl, hother⟩) | ⟨entry, -, rfl, hother⟩)
    · exact .memory hother
    · exact .function .alloc hother
    · exact .function .dealloc hother
    · exact .function (.packed entry) hother
  · rintro (hother | ⟨_ | _ | entry, hother⟩)
    · exact .inl (.inl (.inl ⟨rfl, hother⟩))
    · exact .inl (.inl (.inr ⟨rfl, hother⟩))
    · exact .inl (.inr ⟨rfl, hother⟩)
    · exact .inr ⟨entry, entry.mem_all, rfl, hother⟩

theorem missing_eq_nil_iff : table.missing = [] ↔ ∀ name, ¬table.Lacks name := by
  simp only [List.eq_nil_iff_forall_not_mem, mem_missing_iff]

theorem lacking_sublist (name : String) (isFound : Bool) :
    (lacking name isFound).Sublist [name] := by
  cases isFound
  · exact List.Sublist.refl _
  · exact List.nil_sublist _

/-- The names are collected in the order in which they are looked up, and no two of them are the
same. -/
theorem nodup_missing (table : ExportTable σ) : table.missing.Nodup := by
  have hnames : (memoryName :: Callee.all.map Callee.name).Nodup := by decide
  have hpacked (entries : List PackedExport) :
      (entries.flatMap fun entry =>
        lacking entry.name (table.function? entry.name).isSome).Sublist (entries.map (·.name)) := by
    induction entries with
    | nil => exact List.Sublist.refl _
    | cons entry rest ih => exact (lacking_sublist _ _).append ih
  have hmissing : table.missing.Sublist (memoryName :: Callee.all.map Callee.name) :=
    (((lacking_sublist _ _).append (lacking_sublist _ _)).append (lacking_sublist _ _)).append
      (hpacked PackedExport.all)
  exact hnames.sublist hmissing

/-! ## Sorted names -/

theorem mem_sortNames_iff {name : String} {names : List String} :
    name ∈ sortNames names ↔ name ∈ names :=
  List.mem_mergeSort

/-- Names of which no two are the same ascend when they are sorted. -/
theorem ascending_sortNames {names : List String} (hnodup : names.Nodup) :
    (sortNames names).Pairwise fun first second => Bytes.ofText first < Bytes.ofText second := by
  have hsorted : (sortNames names).Pairwise fun first second =>
      decide (Bytes.ofText first ≤ Bytes.ofText second) = true := by
    refine List.pairwise_mergeSort (fun first second third hfirst hsecond => ?_)
      (fun first second => ?_) names
    · exact decide_eq_true
        (List.le_trans (of_decide_eq_true hfirst) (of_decide_eq_true hsecond))
    · rw [Bool.or_eq_true, decide_eq_true_iff, decide_eq_true_iff]
      exact List.le_total _ _
  have hdistinct : (sortNames names).Nodup := (List.mergeSort_perm names _).nodup_iff.2 hnodup
  refine hsorted.imp₂ (fun first second hle hne => ?_) hdistinct
  refine Std.lt_of_le_of_ne (of_decide_eq_true hle) fun heq => hne ?_
  have hdecoded := congrArg Utf8.decode? heq
  rw [Utf8.decode?_ofText, Utf8.decode?_ofText] at hdecoded
  exact Option.some.inj hdecoded

/-! ## Functions of a table -/

/-- A table provides a function with a signature for each callee, and a memory. -/
structure Provides (table : ExportTable σ)
    (found : Callee → FuncType × GuestFunction σ (List Value)) : Prop where
  memory : table.lookup memoryName = some .memory
  function (callee : Callee) :
    table.lookup callee.name = some (.func (found callee).1 (found callee).2)

/-- A table that lacks nothing exports a function for every callee. -/
theorem exists_function (hlacks : ∀ name, ¬table.Lacks name) (callee : Callee) :
    ∃ type call, table.lookup callee.name = some (.func type call) := by
  by_contra hnone
  exact hlacks callee.name (.function callee fun type call hlookup => hnone ⟨type, call, hlookup⟩)

theorem exists_provides (hlacks : ∀ name, ¬table.Lacks name) : ∃ found, table.Provides found := by
  choose type call hlookup using exists_function hlacks
  refine ⟨fun callee => (type callee, call callee), ?_, hlookup⟩
  by_contra hother
  exact hlacks memoryName (.memory hother)

/-- The functions that were found for the callees, as the host keeps them. -/
def exportsOf (found : Callee → FuncType × GuestFunction σ (List Value)) : Exports σ :=
  ⟨(found .alloc).2.map wordOf, (found .dealloc).2.map fun _ => (),
    PackedExport.all.map fun entry => (found (.packed entry)).2⟩

/-- A packed export is called as it is: what it returns is handed over unchanged. -/
theorem map_handed_packed (entry : PackedExport) (call : GuestFunction σ (List Value)) :
    call.map (Callee.handed (.packed entry)) = call := by
  funext args tripwire guest
  unfold GuestFunction.map Callee.handed
  obtain ⟨after, notices, ending⟩ := call args tripwire guest
  cases ending <;> rfl

/-- Each callee gets the function that was found for it. -/
theorem function_exportsOf (found : Callee → FuncType × GuestFunction σ (List Value))
    (callee : Callee) :
    (exportsOf found).function callee = (found callee).2.map callee.handed := by
  rcases callee with _ | _ | entry
  · rfl
  · rfl
  · rw [map_handed_packed]
    exact Exports.packed_map_all _ _ _ entry

/-! ## Resolving a table -/

/-- If a required name is lacking, all that are lacking are reported. -/
theorem resolve_of_lacks {name : String} (hlacks : table.Lacks name) :
    table.resolve = .error (.missingExports (sortNames table.missing)) := by
  have hsome : table.missing.isEmpty = false :=
    List.isEmpty_eq_false_iff.2 (List.ne_nil_of_mem (mem_missing_iff.2 hlacks))
  unfold resolve
  dsimp only
  split
  · rw [hsome]
    rfl
  · rfl

namespace Provides

variable {found : Callee → FuncType × GuestFunction σ (List Value)}

theorem function?_eq (hprovides : table.Provides found) (callee : Callee) :
    table.function? callee.name = some (found callee) :=
  function?_eq_some_iff.2 (hprovides.function callee)

/-- What is provided for a callee is what is exported under its name. -/
theorem eq_of_lookup (hprovides : table.Provides found)
    (hlookup : table.lookup callee.name = some (.func type call)) : found callee = (type, call) :=
  Option.some.inj ((hprovides.function?_eq callee).symm.trans (function?_eq_some_iff.2 hlookup))

theorem missing_eq_nil (hprovides : table.Provides found) : table.missing = [] := by
  refine missing_eq_nil_iff.2 fun name hlacks => ?_
  rcases hlacks with hother | ⟨callee, hother⟩
  · exact hother hprovides.memory
  · exact hother _ _ (hprovides.function callee)

/-- No place of the list is empty, so each function stays at the place of its export. -/
theorem functions_eq (hprovides : table.Provides found) :
    (PackedExport.all.map fun entry => table.function? entry.name).filterMap id =
      PackedExport.all.map fun entry => found (.packed entry) := by
  have hfound : (id ∘ fun entry : PackedExport => table.function? entry.name) =
      fun entry => some (found (.packed entry)) :=
    funext fun entry => hprovides.function?_eq (.packed entry)
  rw [List.filterMap_map, hfound, List.filterMap_eq_map']

/-- If nothing is lacking, the signatures decide. -/
theorem resolve_eq (hprovides : table.Provides found) :
    table.resolve = do
      Callee.all.forM fun callee => callee.check (found callee).1
      return exportsOf found := by
  have hmemory : table.hasMemory = true := hasMemory_iff.2 hprovides.memory
  have halloc : ((found .alloc).1 == allocSignature) =
      decide (Callee.Admits (found .alloc).1 .alloc) := beq_eq_decide ..
  have hdealloc : ((found .dealloc).1 == deallocSignature) =
      decide (Callee.Admits (found .dealloc).1 .dealloc) := beq_eq_decide ..
  have hzip : PackedExport.all.zip (PackedExport.all.map fun entry => found (.packed entry)) =
      PackedExport.all.map fun entry => (entry, found (.packed entry)) := rfl
  unfold resolve
  dsimp only
  rw [hmemory, hprovides.function?_eq .alloc, hprovides.function?_eq .dealloc]
  dsimp only
  rw [hprovides.missing_eq_nil, hprovides.functions_eq, halloc, hdealloc, hzip]
  -- All functions are there, so what is left to compare are the checks.
  show (do
    Callee.check .alloc (found .alloc).1
    Callee.check .dealloc (found .dealloc).1
    (PackedExport.all.map fun entry => (entry, found (.packed entry))).forM
      fun item => checkPacked item.1 item.2.1
    return exportsOf found : Except BridgeError (Exports σ)) = _
  unfold Callee.all
  simp only [List.forM_eq_forM, List.forM_cons, List.forM_map, ← Callee.check_packed, bind_assoc]

/-- The first function whose signature does not fit is reported. -/
theorem resolve_of_misfit (hprovides : table.Provides found) {before later : List Callee}
    (horder : Callee.all = before ++ callee :: later)
    (hbefore : ∀ earlier ∈ before, earlier.Admits (found earlier).1)
    (hnot : ¬callee.Admits (found callee).1) :
    table.resolve =
      .error (.exportSignature callee.name callee.expected (found callee).1.describe) := by
  have hchecked : (before.forM fun earlier => earlier.check (found earlier).1) = .ok () :=
    forM_eq_ok fun earlier hmem => Callee.check_of_admits (hbefore earlier hmem)
  rw [hprovides.resolve_eq, horder, List.forM_eq_forM, List.forM_append, List.forM_cons,
    Callee.check_of_not_admits hnot, ← List.forM_eq_forM, hchecked]
  rfl

/-- If every signature fits, the functions are kept. -/
theorem resolve_of_fits (hprovides : table.Provides found)
    (hfits : ∀ callee : Callee, callee.Admits (found callee).1) :
    table.resolve = .ok (exportsOf found) := by
  rw [hprovides.resolve_eq, forM_eq_ok fun callee _ => Callee.check_of_admits (hfits callee)]
  rfl

end Provides

/-- A table is rejected for names that are lacking or for a signature, and for nothing else. -/
theorem resolve_error {error : BridgeError} (hrejected : table.resolve = .error error) :
    (∃ names, error = .missingExports names) ∨
      ∃ name expected actual, error = .exportSignature name expected actual := by
  by_cases hlacks : ∃ name, table.Lacks name
  · obtain ⟨name, hlacks⟩ := hlacks
    rw [resolve_of_lacks hlacks] at hrejected
    cases hrejected
    exact .inl ⟨_, rfl⟩
  · obtain ⟨found, hprovides⟩ := exists_provides (not_exists.1 hlacks)
    rw [hprovides.resolve_eq] at hrejected
    cases hchecks : Callee.all.forM fun callee => callee.check (found callee).1 with
    | ok _ =>
      rw [hchecks] at hrejected
      cases hrejected
    | error other =>
      rw [hchecks] at hrejected
      cases hrejected
      obtain ⟨callee, -, hcallee⟩ := exists_of_forM_eq_error hchecks
      by_cases hadmits : callee.Admits (found callee).1
      · rw [Callee.check_of_admits hadmits] at hcallee
        cases hcallee
      · rw [Callee.check_of_not_admits hadmits] at hcallee
        cases hcallee
        exact .inr ⟨_, _, _, rfl⟩

end ExportTable

end GuestBridge
