import LineCommands.Settings
import LineCommands.Proofs.NameMapView
/-!
# Applying settings twice

`Settings.apply` installs the usage style and then adds the configured aliases one by one, in
the order of their names, each through `Registry.addAlias`: an alias is refused when its name
is taken or when its target resolves to nothing at the moment it is added. So an alias whose
target is another configured alias, one that sorts after it, is refused on the first pass and
added on a later one. Applying settings is therefore not idempotent in general, and this
module says exactly when it is.

A second application keeps the usage style and the commands, and every name that resolved
before still resolves to the same command. It leaves the registry exactly as the first left
it, and refuses every alias, exactly when each alias's name is already taken in that registry
or its target resolves to nothing there (`Settings.apply_twice`).

## What this module delivers

- `Registry.addAlias_cases`: the two outcomes of adding an alias.
- `Settings.aliasStep` and `Settings.apply_eq`: one application as a fold of one step per
  alias.
- `Settings.foldl_aliasStep_keeps`: what a pass over aliases keeps.
- `Settings.foldl_aliasStep_eq_self_iff`: a pass changes nothing exactly when it refuses
  every alias.
- `Settings.apply_twice`: the main statement, and `Settings.second_apply_adds_forward_alias`,
  the settings whose second application adds an alias.
-/

namespace LineCommands

namespace Registry

variable (r : Registry)

/-- **The two outcomes of adding an alias.** It is refused, leaving the registry as it was,
when the name is taken or the target resolves to nothing; otherwise the name is bound to the
target's command. -/
theorem addAlias_cases (a t : String) :
    (r.addAlias a t = (r, false) ∧ (r.aliases.contains a = true ∨ r.lookup t = none)) ∨
    (∃ c, r.aliases.contains a = false ∧ r.lookup t = some c ∧
      r.addAlias a t = ({ r with aliases := r.aliases.insert a c }, true)) := by
  unfold addAlias
  by_cases hc : r.aliases.contains a = true
  · exact .inl ⟨by simp [hc], .inl hc⟩
  · cases ht : r.lookup t with
    | none => exact .inl ⟨by simp [hc], .inr rfl⟩
    | some c => exact .inr ⟨c, by simpa using hc, rfl, by simp [hc]⟩

@[simp] theorem style_addAlias (a t : String) : (r.addAlias a t).1.style = r.style := by
  rcases r.addAlias_cases a t with ⟨h, -⟩ | ⟨c, -, -, h⟩ <;> rw [h]

@[simp] theorem commands_addAlias (a t : String) : (r.addAlias a t).1.commands = r.commands := by
  rcases r.addAlias_cases a t with ⟨h, -⟩ | ⟨c, -, -, h⟩ <;> rw [h]

/-- Adding an alias keeps every name that resolved before: a taken name is refused. -/
theorem lookup_addAlias {a t k : String} {c : Command} (h : r.lookup k = some c) :
    (r.addAlias a t).1.lookup k = some c := by
  rcases r.addAlias_cases a t with ⟨hadd, -⟩ | ⟨c', hfree, -, hadd⟩
  · rw [hadd, h]
  · rw [hadd]
    have hne : a ≠ k := by
      rintro rfl
      rw [lookup] at h
      simp [NameMap.contains, h] at hfree
    simpa [lookup, NameMap.find?_insert, hne] using h

end Registry

namespace Settings

/-- One configured alias added to the registry; its name joins the refused ones when the
registry refuses it. -/
def aliasStep (acc : Registry × List String) (e : String × String) : Registry × List String :=
  let (r', added) := acc.1.addAlias e.1 e.2
  (r', if added then acc.2 else acc.2 ++ [e.1])

/-- One application: the usage style, then one step per configured alias in the order of the
entries. -/
theorem apply_eq (cfg : Settings) (r : Registry) :
    cfg.apply r = cfg.aliases.entries.foldl aliasStep ({ r with style := cfg.usage }, []) := rfl

/-- **What a pass over aliases keeps**: the usage style, the commands, and every name that
resolved before it. -/
theorem foldl_aliasStep_keeps (es : List (String × String)) (acc : Registry × List String) :
    (es.foldl aliasStep acc).1.style = acc.1.style ∧
      (es.foldl aliasStep acc).1.commands = acc.1.commands ∧
      ∀ k c, acc.1.lookup k = some c → (es.foldl aliasStep acc).1.lookup k = some c := by
  induction es generalizing acc with
  | nil => exact ⟨rfl, rfl, fun _ _ h => h⟩
  | cons e es ih =>
    obtain ⟨hs, hc, hl⟩ := ih (aliasStep acc e)
    refine ⟨?_, ?_, fun k c h => hl k c ?_⟩
    · simpa [aliasStep] using hs
    · simpa [aliasStep] using hc
    · exact acc.1.lookup_addAlias h

/-- **A pass over aliases changes nothing exactly when it refuses every alias**: when each
alias's name is taken, or its target resolves to nothing, in the registry as it stands. An
alias added on the way would stay bound, so the registry could not come back. -/
theorem foldl_aliasStep_eq_self_iff (es : List (String × String)) (r : Registry)
    (rej : List String) :
    es.foldl aliasStep (r, rej) = (r, rej ++ es.map (·.1)) ↔
      ∀ e ∈ es, r.aliases.contains e.1 = true ∨ r.lookup e.2 = none := by
  induction es generalizing rej with
  | nil => simp
  | cons e es ih =>
    rw [List.foldl_cons, List.forall_mem_cons]
    rcases r.addAlias_cases e.1 e.2 with ⟨hadd, hrefused⟩ | ⟨c, hfree, ht, hadd⟩
    · -- a refused alias only joins the refused names
      have hstep : aliasStep (r, rej) e = (r, rej ++ [e.1]) := by simp [aliasStep, hadd]
      have hrej : rej ++ (e :: es).map (·.1) = (rej ++ [e.1]) ++ es.map (·.1) := by simp
      rw [hstep, hrej, ih]
      exact ⟨fun h => ⟨hrefused, h⟩, fun h => h.2⟩
    · -- an added alias stays bound to the end, where the registry had left it free
      have hstep : aliasStep (r, rej) e = ({ r with aliases := r.aliases.insert e.1 c }, rej) := by
        simp [aliasStep, hadd]
      have hbound : ({ r with aliases := r.aliases.insert e.1 c } : Registry).lookup e.1 = some c := by
        simp [Registry.lookup, NameMap.find?_insert]
      refine ⟨fun h => ?_, fun h => ?_⟩
      · have hend := (foldl_aliasStep_keeps es (_, rej)).2.2 _ _ hbound
        rw [← hstep, h] at hend
        simp [NameMap.contains] at hfree
        simp [Registry.lookup, hfree] at hend
      · rcases h.1 with h' | h'
        · simp [hfree] at h'
        · simp [ht] at h'

/-- **Applying settings a second time.** The second application keeps the usage style and the
commands as the first left them, and every name that resolved after the first still resolves
to the same command. It leaves the registry exactly as the first left it, refusing every
configured alias, exactly when each alias's name is taken in that registry or its target
resolves to nothing there. -/
theorem apply_twice (cfg : Settings) (r : Registry) :
    (cfg.apply (cfg.apply r).1).1.style = (cfg.apply r).1.style ∧
      (cfg.apply (cfg.apply r).1).1.commands = (cfg.apply r).1.commands ∧
      (∀ k c, (cfg.apply r).1.lookup k = some c → (cfg.apply (cfg.apply r).1).1.lookup k = some c) ∧
      (cfg.apply (cfg.apply r).1 = ((cfg.apply r).1, cfg.aliases.keys) ↔
        ∀ e ∈ cfg.aliases.entries,
          (cfg.apply r).1.aliases.contains e.1 = true ∨ (cfg.apply r).1.lookup e.2 = none) := by
  generalize hone : (cfg.apply r).1 = once
  -- the first application installed the style, so the second starts from `once` itself
  have hstyle : once.style = cfg.usage := by
    rw [← hone, apply_eq]
    exact (foldl_aliasStep_keeps _ _).1
  have hstart : ({ once with style := cfg.usage } : Registry) = once := by rw [← hstyle]
  rw [apply_eq, hstart]
  obtain ⟨hs, hc, hl⟩ := foldl_aliasStep_keeps cfg.aliases.entries (once, [])
  exact ⟨hs, hc, hl, by rw [NameMap.keys, ← List.nil_append (List.map _ _),
    foldl_aliasStep_eq_self_iff]⟩

/-- Settings whose second application adds an alias: `a` names `b`, which names `sum`. The
first application refuses `a`, since `b` resolves to nothing yet, and then adds `b`; the second
adds `a` and refuses only `b`. -/
theorem second_apply_adds_forward_alias :
    let cfg : Settings := { aliases := ⟨[("a", "b"), ("b", "sum")], by decide⟩ }
    let r := ((({} : Registry).register (Command.sum 0)).1)
    (cfg.apply r).2 = ["a"] ∧ ((cfg.apply r).1.lookup "a").isSome = false ∧
      (cfg.apply (cfg.apply r).1).2 = ["b"] ∧
      (cfg.apply (cfg.apply r).1).1.lookup "a" = some (Command.sum 0) := by
  decide

end Settings

end LineCommands
