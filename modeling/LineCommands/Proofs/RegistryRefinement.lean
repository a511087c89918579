import LineCommands.Registry.Basic
import LineCommands.Proofs.NameMapView
import Mathlib.Data.Finset.Card
/-!
# The registry refines a directory of names

A registry keeps two tables that five operations update separately: `aliases`, from
invocation names to commands, and `commands`, the distinct registered commands. Seen from
outside, it is a `Directory`: a map from names to command handles and a finite set of
handles. This module shows that every registry reachable from the empty one answers each
operation as the directory does and moves as the directory moves.

`Directory.edit` is the directory's semantics, operation by operation: registering under a
free name with a signature that `Signature.validate` accepts binds the name and adds the
handle; an alias copies the handle of an existing name to a free one; removing an alias
drops one name; unregistering drops the handle and, on request, every name bound to it;
every refused operation leaves the directory as it was. Registering under the canonical name
(`Registry.register`) is registering under `c.name` by definition.

The alias map holds each name once by its own order, so the aliases of a command are
exactly the names bound to its handle. The invariant left to carry is `Registry.WellFormed`:
no two commands share a handle. Under it the command count is the size of the set.

## What this module delivers

- `Signature.validate_eq_ok_iff`: a signature is accepted exactly when no argument but the
  last reads the full line.
- `Registry.edit_view` and `Registry.edit_of_refused`: each operation commutes with the
  view, and a refused one changes nothing.
- `registry_refines_directory`: the refinement for every reachable registry.
-/

namespace LineCommands

/-! ## Signatures a registry accepts -/

namespace Signature

/-- No argument but the last one reads the full line. -/
def FullOnlyLast (s : Signature) : Prop := ∀ a ∈ s.all.dropLast, a.kind ≠ .full

instance (s : Signature) : Decidable s.FullOnlyLast :=
  inferInstanceAs (Decidable (∀ a ∈ s.all.dropLast, a.kind ≠ .full))

theorem mem_dropLast_iff {l : List ArgSpec} {a : ArgSpec} :
    a ∈ l.dropLast ↔ ∃ (j : Nat) (h : j + 1 < l.length), l[j] = a := by
  rw [List.mem_iff_getElem]
  constructor
  · rintro ⟨j, hj, rfl⟩
    exact ⟨j, by simp at hj; omega, by simp⟩
  · rintro ⟨j, hj, rfl⟩
    exact ⟨j, by simp; omega, by simp⟩

/-- `validate` accepts a signature exactly when the first argument of the full kind, if any,
is the last one. -/
theorem validate_eq_ok_iff (s : Signature) : s.validate = .ok () ↔ s.FullOnlyLast := by
  unfold validate FullOnlyLast
  cases hf : s.all.findIdx? (·.kind = .full) with
  | none =>
    rw [List.findIdx?_eq_none_iff] at hf
    simp only [true_iff]
    intro a ha
    simpa using hf a (List.mem_of_mem_dropLast ha)
  | some i =>
    obtain ⟨hi, hfull, hbefore⟩ := List.findIdx?_eq_some_iff_getElem.1 hf
    dsimp only
    by_cases hlast : i + 1 = s.all.length
    · -- the first argument of the full kind is the last one: none comes before it
      simp only [hlast, if_true, true_iff]
      intro a ha hk
      obtain ⟨j, hj, rfl⟩ := mem_dropLast_iff.1 ha
      exact hbefore j (by omega) (by simpa using hk)
    · -- it is followed by another argument, so it sits in the list without the last one
      simp only [hlast, if_false, reduceCtorEq, false_iff]
      intro h
      exact h s.all[i] (mem_dropLast_iff.2 ⟨i, by omega, rfl⟩) (by simpa using hfull)

end Signature

/-! ## The directory -/

/-- The registry seen through names and commands only: the handle each name resolves to,
and the handles of the registered commands. -/
@[ext] structure Directory where
  names : String → Option Nat
  members : Finset Nat

/-- An operation on names and commands. -/
inductive Edit where
  /-- Registers a command under a name. -/
  | registerAs (name : String) (c : Command)
  /-- Makes `newName` resolve to what `existing` resolves to. -/
  | addAlias (newName existing : String)
  /-- Removes one name. -/
  | removeAlias (name : String)
  /-- Unregisters the command a name resolves to, and with `deleteAliases` all its names. -/
  | unregister (name : String) (deleteAliases : Bool)

namespace Directory

/-- Performs an operation; the flag says whether it took place. -/
def edit (d : Directory) : Edit → Directory × Bool
  | .registerAs name c =>
    if d.names name = none ∧ c.signature.FullOnlyLast then
      (⟨Function.update d.names name (some c.handle), insert c.handle d.members⟩, true)
    else (d, false)
  | .addAlias newName existing =>
    match d.names newName, d.names existing with
    | none, some h => ({ d with names := Function.update d.names newName (some h) }, true)
    | _, _ => (d, false)
  | .removeAlias name =>
    if d.names name = none then (d, false)
    else ({ d with names := Function.update d.names name none }, true)
  | .unregister name deleteAliases =>
    match d.names name with
    | none => (d, false)
    | some h =>
      (⟨if deleteAliases then fun k => (d.names k).filter (· ≠ h) else d.names,
        d.members.erase h⟩, true)

end Directory

namespace Registry

variable (r : Registry)

/-- Performs an operation on names and commands. -/
def edit : Edit → Registry × Bool
  | .registerAs name c => r.registerAs name c
  | .addAlias newName existing => r.addAlias newName existing
  | .removeAlias name => r.removeAlias name
  | .unregister name deleteAliases => r.unregister name deleteAliases

/-- The directory a registry stands for. -/
def view : Directory :=
  ⟨fun k => (r.lookup k).map Command.handle, (r.commands.map Command.handle).toFinset⟩

@[simp] theorem view_names (k : String) :
    r.view.names k = (r.aliases.find? k).map Command.handle := rfl

@[simp] theorem view_members : r.view.members = (r.commands.map Command.handle).toFinset := rfl

/-- No two registered commands share a handle. -/
structure WellFormed : Prop where
  distinct : (r.commands.map Command.handle).Nodup

/-! ## Each operation through the view -/

/-- The commands after registering `c`: unchanged when its handle is there, else `c`
appended. -/
theorem members_registerAs {l : List Command} {c : Command} :
    ((if l.any (·.handle = c.handle) then l else l ++ [c]).map Command.handle).toFinset =
      insert c.handle (l.map Command.handle).toFinset := by
  split
  · next h =>
    obtain ⟨c', hc', hh⟩ := List.any_eq_true.1 h
    have : c.handle ∈ (l.map Command.handle).toFinset := by
      simp only [decide_eq_true_eq] at hh
      exact List.mem_toFinset.2 (List.mem_map.2 ⟨c', hc', hh⟩)
    exact (Finset.insert_eq_of_mem this).symm
  · ext x
    simp

theorem distinct_registerAs {l : List Command} {c : Command} (h : (l.map Command.handle).Nodup) :
    ((if l.any (·.handle = c.handle) then l else l ++ [c]).map Command.handle).Nodup := by
  split
  · exact h
  · next hany =>
    rw [List.map_append, List.nodup_append]
    refine ⟨h, List.nodup_singleton _, ?_⟩
    simp only [List.map_cons, List.map_nil, List.mem_singleton, List.mem_map]
    rintro _ ⟨c', hc', rfl⟩ _ rfl hh
    exact hany (List.any_eq_true.2 ⟨c', hc', by simp [hh]⟩)

/-- Binding a name moves the view's names by a point update. -/
theorem names_insert (name : String) (c : Command) :
    (fun k => ((r.aliases.insert name c).find? k).map Command.handle) =
      Function.update r.view.names name (some c.handle) := by
  funext k
  rw [NameMap.find?_insert, Function.update_apply]
  by_cases hk : name = k
  · simp [hk]
  · simp [hk, Ne.symm hk]

/-- Removing a name moves the view's names by a point update. -/
theorem names_erase (name : String) :
    (fun k => ((r.aliases.erase name).find? k).map Command.handle) =
      Function.update r.view.names name none := by
  funext k
  rw [NameMap.find?_erase, Function.update_apply]
  by_cases hk : name = k
  · simp [hk]
  · simp [hk, Ne.symm hk]

theorem edit_registerAs (name : String) (c : Command) :
    (r.edit (.registerAs name c)).2 = (r.view.edit (.registerAs name c)).2 ∧
      (r.edit (.registerAs name c)).1.view = (r.view.edit (.registerAs name c)).1 := by
  simp only [edit, registerAs, Directory.edit]
  cases hval : c.signature.validate with
  | error e =>
    have hbad : ¬c.signature.FullOnlyLast := by
      rw [← Signature.validate_eq_ok_iff, hval]
      simp
    simp [hbad]
  | ok u =>
    have hgood : c.signature.FullOnlyLast := (Signature.validate_eq_ok_iff _).1 hval
    by_cases hc : r.aliases.contains name = true
    · have hbound : r.aliases.find? name ≠ none := (NameMap.contains_eq_true_iff _ _).1 hc
      simp [hc, hbound]
    · have hfree : r.aliases.find? name = none := by
        simpa [NameMap.contains_eq_true_iff] using hc
      simp only [hc, Bool.false_eq_true, if_false, view_names, hfree, Option.map_none,
        hgood, and_self, if_true, true_and]
      ext1
      · exact r.names_insert name c
      · exact members_registerAs

theorem edit_addAlias (newName existing : String) :
    (r.edit (.addAlias newName existing)).2 = (r.view.edit (.addAlias newName existing)).2 ∧
      (r.edit (.addAlias newName existing)).1.view =
        (r.view.edit (.addAlias newName existing)).1 := by
  simp only [edit, addAlias, Directory.edit, view_names]
  by_cases hc : r.aliases.contains newName = true
  · have hbound : r.aliases.find? newName ≠ none := (NameMap.contains_eq_true_iff _ _).1 hc
    obtain ⟨c', hc'⟩ := Option.ne_none_iff_exists'.1 hbound
    simp [hc, hc']
  · have hfree : r.aliases.find? newName = none := by
      simpa [NameMap.contains_eq_true_iff] using hc
    simp only [hc, Bool.false_eq_true, if_false, hfree, Option.map_none, lookup]
    cases hex : r.aliases.find? existing with
    | none => simp
    | some c =>
      refine ⟨rfl, ?_⟩
      ext1
      · exact r.names_insert newName c
      · rfl

theorem edit_removeAlias (name : String) :
    (r.edit (.removeAlias name)).2 = (r.view.edit (.removeAlias name)).2 ∧
      (r.edit (.removeAlias name)).1.view = (r.view.edit (.removeAlias name)).1 := by
  simp only [edit, removeAlias, Directory.edit, view_names]
  by_cases hc : r.aliases.contains name = true
  · have hbound : r.aliases.find? name ≠ none := (NameMap.contains_eq_true_iff _ _).1 hc
    simp only [hc, if_true, Option.map_eq_none_iff, hbound, if_false, true_and]
    ext1
    · exact r.names_erase name
    · rfl
  · have hfree : r.aliases.find? name = none := by
      simpa [NameMap.contains_eq_true_iff] using hc
    simp [hc, hfree]

theorem members_unregister (l : List Command) (h : Nat) :
    ((l.filter (·.handle != h)).map Command.handle).toFinset =
      (l.map Command.handle).toFinset.erase h := by
  ext x
  simp only [List.mem_toFinset, List.mem_map, List.mem_filter, Finset.mem_erase, bne_iff_ne]
  constructor
  · rintro ⟨c, ⟨hc, hne⟩, rfl⟩
    exact ⟨hne, c, hc, rfl⟩
  · rintro ⟨hne, c, hc, rfl⟩
    exact ⟨c, ⟨hc, hne⟩, rfl⟩

theorem edit_unregister (name : String) (deleteAliases : Bool) :
    (r.edit (.unregister name deleteAliases)).2 =
        (r.view.edit (.unregister name deleteAliases)).2 ∧
      (r.edit (.unregister name deleteAliases)).1.view =
        (r.view.edit (.unregister name deleteAliases)).1 := by
  simp only [edit, unregister, Directory.edit, view_names, lookup]
  cases hn : r.aliases.find? name with
  | none => simp
  | some c =>
    simp only [Option.map_some, true_and]
    ext1
    · funext k
      cases deleteAliases with
      | false => rfl
      | true =>
        -- the filtered map holds the entry of `k` exactly when its handle is not `c`'s
        simp only [if_true, view_names, NameMap.find?_filterValues]
        cases r.aliases.find? k with
        | none => rfl
        | some c' => by_cases hh : c'.handle = c.handle <;> simp [Option.filter_some, hh]
    · exact members_unregister _ _

/-- **Each operation commutes with the view**: a registry answers an operation as its
directory does, and is left standing for the directory the operation leaves. -/
theorem edit_view (e : Edit) :
    (r.edit e).2 = (r.view.edit e).2 ∧ (r.edit e).1.view = (r.view.edit e).1 := by
  cases e with
  | registerAs name c => exact r.edit_registerAs name c
  | addAlias newName existing => exact r.edit_addAlias newName existing
  | removeAlias name => exact r.edit_removeAlias name
  | unregister name deleteAliases => exact r.edit_unregister name deleteAliases

/-- A refused operation leaves the whole registry as it was. -/
theorem edit_of_refused (e : Edit) (h : (r.edit e).2 = false) : (r.edit e).1 = r := by
  cases e with
  | registerAs name c =>
    revert h
    simp only [edit, registerAs]
    cases c.signature.validate with
    | error _ => exact fun _ => rfl
    | ok _ =>
      by_cases hc : r.aliases.contains name = true <;> simp [hc]
  | addAlias newName existing =>
    simp only [edit, addAlias] at h ⊢
    by_cases hc : r.aliases.contains newName = true
    · simp [hc]
    · cases hex : r.lookup existing with
      | none => simp [hc]
      | some c => simp [hc, hex] at h
  | removeAlias name =>
    simp only [edit, removeAlias] at h ⊢
    by_cases hc : r.aliases.contains name = true
    · simp [hc] at h
    · simp [hc]
  | unregister name deleteAliases =>
    simp only [edit, unregister] at h ⊢
    cases hn : r.lookup name with
    | none => simp
    | some c => simp [hn] at h

theorem registerType_of_refused (name : String) (p : ValueParser)
    (h : (r.registerType name p).2 = false) : (r.registerType name p).1 = r := by
  simp only [registerType] at h ⊢
  split at h
  · cases h
  · rfl

theorem unregisterType_of_refused (name : String) (h : (r.unregisterType name).2 = false) :
    (r.unregisterType name).1 = r := by
  simp only [unregisterType] at h ⊢
  split at h
  · cases h
  · rfl

/-! ## The invariant -/

theorem WellFormed.edit {r : Registry} (hr : r.WellFormed) (e : Edit) : (r.edit e).1.WellFormed := by
  cases e with
  | registerAs name c =>
    simp only [Registry.edit, registerAs]
    split
    · exact hr
    · split
      · exact hr
      · exact ⟨distinct_registerAs hr.distinct⟩
  | addAlias newName existing =>
    simp only [Registry.edit, addAlias]
    split
    · exact hr
    · split
      · exact hr
      · exact ⟨hr.distinct⟩
  | removeAlias name =>
    simp only [Registry.edit, removeAlias]
    split
    · exact ⟨hr.distinct⟩
    · exact hr
  | unregister name deleteAliases =>
    simp only [Registry.edit, unregister]
    cases r.lookup name with
    | none => exact hr
    | some c =>
      exact ⟨hr.distinct.sublist ((List.filter_sublist).map _)⟩

theorem WellFormed.registerType {r : Registry} (hr : r.WellFormed) (name : String)
    (p : ValueParser) : (r.registerType name p).1.WellFormed := by
  simp only [Registry.registerType]
  split
  · exact ⟨hr.distinct⟩
  · exact hr

theorem WellFormed.unregisterType {r : Registry} (hr : r.WellFormed) (name : String) :
    (r.unregisterType name).1.WellFormed := by
  simp only [Registry.unregisterType]
  split
  · exact ⟨hr.distinct⟩
  · exact hr

/-- The aliases of a command are the names of the map filtered by its handle. -/
theorem aliasesOf_eq_keys (c : Command) :
    r.aliasesOf c = (r.aliases.filterValues fun v => decide (v.handle = c.handle)).keys := rfl

theorem aliasesOf_sorted (c : Command) : (r.aliasesOf c).Pairwise (· < ·) := by
  rw [aliasesOf_eq_keys]
  exact (r.aliases.filterValues _).sorted

/-- The names listed as aliases of a command are the names bound to its handle. -/
theorem mem_aliasesOf_iff (c : Command) (k : String) :
    k ∈ r.aliasesOf c ↔ r.view.names k = some c.handle := by
  rw [aliasesOf_eq_keys, NameMap.mem_keys_iff, NameMap.find?_filterValues, view_names]
  cases r.aliases.find? k with
  | none => simp
  | some c' => by_cases hh : c'.handle = c.handle <;> simp [Option.filter_some, hh]

theorem commandCount_eq_card (hr : r.WellFormed) : r.commandCount = r.view.members.card := by
  rw [view_members, List.toFinset_card_of_nodup hr.distinct, List.length_map]
  rfl

/-! ## Reachable registries -/

/-- The registries a program can hold: the empty one, and whatever operations, handle
minting, custom-kind changes and settings make of one it can hold. -/
inductive Reachable : Registry → Prop where
  | empty : Reachable {}
  | mint {r : Registry} : Reachable r → Reachable r.mint.2
  | edit {r : Registry} (e : Edit) : Reachable r → Reachable (r.edit e).1
  | registerType {r : Registry} (name : String) (p : ValueParser) : Reachable r →
      Reachable (r.registerType name p).1
  | unregisterType {r : Registry} (name : String) : Reachable r →
      Reachable (r.unregisterType name).1
  | style {r : Registry} (s : UsageStyle) : Reachable r → Reachable { r with style := s }
  | unknownReply {r : Registry} (u : UnknownReply) : Reachable r →
      Reachable { r with unknownReply := u }

/-- Every reachable registry is well formed. -/
theorem Reachable.wellFormed {r : Registry} (h : r.Reachable) : r.WellFormed := by
  induction h with
  | empty => exact ⟨List.nodup_nil⟩
  | mint _ ih => exact ⟨ih.distinct⟩
  | edit e _ ih => exact ih.edit e
  | registerType name p _ ih => exact ih.registerType name p
  | unregisterType name _ ih => exact ih.unregisterType name
  | style s _ ih => exact ⟨ih.distinct⟩
  | unknownReply u _ ih => exact ⟨ih.distinct⟩

/-- A registry behaves as its directory: no two commands share a handle and their number is
the size of the set; the aliases of a command are the names bound to its handle, in
increasing order; every operation on names and commands answers as the directory does and
leaves the registry standing for the directory it leaves, and when refused leaves the
registry as it was; custom kinds and settings leave the directory alone, and a refused
custom-kind change leaves the registry as it was. -/
structure RefinesDirectory (r : Registry) : Prop where
  distinct : (r.commands.map Command.handle).Nodup
  count : r.commandCount = r.view.members.card
  aliasesOf : ∀ c k, k ∈ r.aliasesOf c ↔ r.view.names k = some c.handle
  aliasesOf_sorted : ∀ c, (r.aliasesOf c).Pairwise (· < ·)
  edit : ∀ e, (r.edit e).2 = (r.view.edit e).2 ∧ (r.edit e).1.view = (r.view.edit e).1
  refused : ∀ e, (r.edit e).2 = false → (r.edit e).1 = r
  registerType : ∀ name p, (r.registerType name p).1.view = r.view ∧
    ((r.registerType name p).2 = false → (r.registerType name p).1 = r)
  unregisterType : ∀ name, (r.unregisterType name).1.view = r.view ∧
    ((r.unregisterType name).2 = false → (r.unregisterType name).1 = r)
  settings : ∀ s u, ({ r with style := s }).view = r.view ∧
    ({ r with unknownReply := u }).view = r.view

theorem registerType_view (name : String) (p : ValueParser) :
    (r.registerType name p).1.view = r.view := by
  simp only [registerType]
  split <;> rfl

theorem unregisterType_view (name : String) : (r.unregisterType name).1.view = r.view := by
  simp only [unregisterType]
  split <;> rfl

end Registry

/-- **The registry refines a directory of names**: every registry reachable from the empty
one by any sequence of operations behaves as the directory it stands for. -/
theorem registry_refines_directory {r : Registry} (hr : r.Reachable) : r.RefinesDirectory := by
  have hw := hr.wellFormed
  refine ⟨hw.distinct, r.commandCount_eq_card hw, r.mem_aliasesOf_iff,
    r.aliasesOf_sorted, r.edit_view, r.edit_of_refused,
    fun name p => ⟨r.registerType_view name p, r.registerType_of_refused name p⟩,
    fun name => ⟨r.unregisterType_view name, r.unregisterType_of_refused name⟩,
    fun _ _ => ⟨rfl, rfl⟩⟩

/-- The registry holding `echo` under its name and the alias `msg`, after `echo` was
unregistered with its aliases kept. -/
theorem registry_refines_directory_sample :
    let r := ((((({} : Registry).edit (.registerAs "echo" (Command.echo 0))).1.edit
      (.addAlias "msg" "echo")).1.edit (.unregister "echo" false)).1)
    r.Reachable ∧ r.RefinesDirectory :=
  let h := ((Registry.Reachable.empty.edit _).edit _).edit _
  ⟨h, registry_refines_directory h⟩

end LineCommands
