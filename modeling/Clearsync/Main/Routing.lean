import Clearsync.Main.Dispatch

namespace clearsync.main

theorem strcasecmp_eq_comm (a b : List Char) : strcasecmp_eq a b = strcasecmp_eq b a := by
  unfold strcasecmp_eq
  by_cases h : a.map Char.toLower = b.map Char.toLower
  · simp [h]
  · simp [h, Ne.symm h]

/-- Every subscriber of the table is loaded, and no subscriber lists its own name up to
    case. -/
def FilterOk (plugins : PluginMap) (table : FilterTable) : Prop :=
  ∀ sub l, table.lookup sub = some l →
    plugins.loaded sub ∧ ∀ j ∈ l, strcasecmp_eq j sub.name = false

section build

variable {plugins : PluginMap} {table : FilterTable} {pl : CsPlugin}

theorem FilterOk.push_filter (h : FilterOk plugins table) (hpl : plugins.loaded pl)
    {atom : List Char} (hatom : strcasecmp_eq atom pl.name = false) :
    FilterOk plugins (push_filter table pl atom) := by
  intro sub l hl
  by_cases hsub : sub = pl
  · subst hsub
    rw [clearsync.main.push_filter, AList.lookup_insert, Option.some.injEq] at hl
    subst hl
    refine ⟨hpl, fun j hj => ?_⟩
    rcases List.mem_append.mp hj with hj | hj
    · cases hold : table.lookup sub with
      | none => simp [hold] at hj
      | some old => exact (h sub old hold).2 j (by simpa [hold] using hj)
    · simp only [List.mem_singleton] at hj
      exact hj ▸ hatom
  · rw [clearsync.main.push_filter, AList.lookup_insert_ne hsub] at hl
    exact h sub l hl

theorem FilterOk.parse_event_filter (h : FilterOk plugins table) (hpl : plugins.loaded pl)
    (text : List Char) : FilterOk plugins (parse_event_filter table pl text) := by
  unfold clearsync.main.parse_event_filter
  have hatoms := event_filter_atoms_not_self pl.name text
  generalize event_filter_atoms pl.name text = atoms at hatoms
  induction atoms generalizing table with
  | nil => exact h
  | cons atom atoms ih =>
    exact ih (h.push_filter hpl (hatoms atom (List.mem_cons_self _ _)))
      fun a ha => hatoms a (List.mem_cons_of_mem _ ha)

theorem build_filter_ok (calls : List (CsPlugin × List Char))
    (hcalls : ∀ c ∈ calls, plugins.loaded c.1) : FilterOk plugins (build_filter calls) := by
  unfold build_filter
  suffices ∀ (table : FilterTable), FilterOk plugins table →
      FilterOk plugins (calls.foldl (fun table c => parse_event_filter table c.1 c.2) table) from
    this ∅ fun sub l h => by simp at h
  induction calls with
  | nil => exact fun _ h => h
  | cons c calls ih =>
    intro table h
    exact ih (fun c' hc' => hcalls c' (List.mem_cons_of_mem _ hc'))
      _ (h.parse_event_filter (hcalls c (List.mem_cons_self _ _)) c.2)

end build

theorem push_filter_lookup (table : FilterTable) (q pl : CsPlugin) (atom : List Char) :
    (push_filter table q atom).lookup pl =
      if q = pl then some ((table.lookup pl).getD [] ++ [atom]) else table.lookup pl := by
  by_cases h : q = pl
  · subst h; simp [push_filter]
  · simp [push_filter, h, AList.lookup_insert_ne (Ne.symm h)]

theorem parse_event_filter_getD (table : FilterTable) (q pl : CsPlugin) (text : List Char) :
    ((parse_event_filter table q text).lookup pl).getD [] =
      (table.lookup pl).getD [] ++ if q = pl then event_filter_atoms q.name text else [] := by
  unfold parse_event_filter
  generalize event_filter_atoms q.name text = atoms
  induction atoms generalizing table with
  | nil => simp
  | cons atom atoms ih =>
    rw [List.foldl_cons, ih, push_filter_lookup]
    by_cases h : q = pl <;> simp [h]

theorem parse_event_filter_nonempty {table : FilterTable}
    (htable : ∀ pl l, table.lookup pl = some l → l ≠ []) (q : CsPlugin) (text : List Char) :
    ∀ pl l, (parse_event_filter table q text).lookup pl = some l → l ≠ [] := by
  unfold parse_event_filter
  generalize event_filter_atoms q.name text = atoms
  induction atoms generalizing table with
  | nil => exact htable
  | cons atom atoms ih =>
    refine ih fun pl l hl => ?_
    rw [push_filter_lookup] at hl
    split at hl
    · cases hl; simp
    · exact htable pl l hl

theorem build_filter_nonempty (calls : List (CsPlugin × List Char)) :
    ∀ pl l, (build_filter calls).lookup pl = some l → l ≠ [] := by
  unfold build_filter
  suffices ∀ table : FilterTable, (∀ pl l, table.lookup pl = some l → l ≠ []) →
      ∀ pl l, (calls.foldl (fun table c => parse_event_filter table c.1 c.2) table).lookup pl = some l →
        l ≠ [] from this ∅ fun _ _ h => by simp at h
  induction calls with
  | nil => exact fun _ h => h
  | cons c calls ih => exact fun table h => ih _ (parse_event_filter_nonempty h c.1 c.2)

theorem build_filter_getD (calls : List (CsPlugin × List Char)) (pl : CsPlugin) :
    ∀ table : FilterTable,
      ((calls.foldl (fun table c => parse_event_filter table c.1 c.2) table).lookup pl).getD [] =
        (table.lookup pl).getD [] ++
          (calls.filter fun c => c.1 = pl).flatMap fun c => event_filter_atoms pl.name c.2 := by
  induction calls with
  | nil => simp
  | cons c calls ih =>
    intro table
    rw [List.foldl_cons, ih, parse_event_filter_getD]
    by_cases h : c.1 = pl
    · subst h; simp [List.filter_cons]
    · simp [h, List.filter_cons]

/-- A plugin's filter list after a configuration's `ParseEventFilter` calls: the atoms of each
    of its `event-filter` texts, in the order of the calls, none replacing an earlier one; a
    plugin that no atom names as subscriber has no entry. -/
theorem build_filter_lookup (calls : List (CsPlugin × List Char)) (pl : CsPlugin) :
    let atoms := (calls.filter fun c => c.1 = pl).flatMap fun c => event_filter_atoms pl.name c.2
    (build_filter calls).lookup pl = if atoms = [] then none else some atoms := by
  intro atoms
  have hget : ((build_filter calls).lookup pl).getD [] = atoms := by
    simpa using build_filter_getD calls pl ∅
  cases hl : (build_filter calls).lookup pl with
  | none =>
    rw [hl] at hget
    simp [← hget]
  | some l =>
    rw [hl] at hget
    simp [← hget, build_filter_nonempty calls pl l hl]

/-- For a loaded subscriber, the inner loop dispatches to the subscriber itself exactly
    when some entry of its list matches the emitter's name. -/
theorem dispatch_target_of_loaded {plugins : PluginMap} {sub : CsPlugin}
    (hsub : plugins.loaded sub) (name : List Char) :
    ∀ l, dispatch_target plugins name sub l = if l.any (strcasecmp_eq name) then some sub else none
  | [] => rfl
  | j :: js => by
    have hlookup : plugins.plugin.lookup sub.name = some sub := hsub
    by_cases hj : strcasecmp_eq name j <;>
      simp [dispatch_target, hj, hlookup, dispatch_target_of_loaded hsub name js]

/-- Over entries with distinct keys, the keys of the entries whose list satisfies `P`
    count each key once when its list does, and not at all otherwise. -/
private theorem count_filterMap_of_nodupKeys (P : List (List Char) → Bool) (s : CsPlugin) :
    ∀ {l : List (Σ _ : CsPlugin, List (List Char))}, l.NodupKeys →
      (l.filterMap fun e => if P e.2 then some e.1 else none).count s =
        ((l.dlookup s).any P).toNat
  | [], _ => rfl
  | ⟨k, v⟩ :: l, hl => by
    obtain ⟨hk, hl⟩ := List.nodupKeys_cons.mp hl
    have ih := count_filterMap_of_nodupKeys P s hl
    by_cases hks : k = s
    · subst hks
      have hnone : l.dlookup k = none := List.dlookup_eq_none.mpr hk
      rw [hnone] at ih
      by_cases hv : P v <;> simp [List.filterMap_cons, hv, ih, List.dlookup_cons_eq]
    · rw [List.dlookup_cons_ne l _ (Ne.symm hks)]
      by_cases hv : P v <;> simp [List.filterMap_cons, List.count_cons, hv, ih, hks]

/-- `DispatchPluginEvent` on any filter table `ParseEventFilter` builds for loaded
    plugins stamps the emitter's name, dispatches copies of the stamped event, exactly one
    to each loaded plugin whose filter list names the emitter up to case, however often,
    and none to any other plugin, the emitter included. -/
theorem CsMain.dispatch_plugin_event_once (plugins : PluginMap)
    (calls : List (CsPlugin × List Char)) (hcalls : ∀ c ∈ calls, plugins.loaded c.1)
    (event : CsEventPlugin) :
    let result := CsMain.dispatch_plugin_event ⟨plugins, build_filter calls⟩ event
    result.1.values.lookup "event_source".toList = some event.source.name ∧
      (∀ d ∈ result.2, d.1 = result.1) ∧
      (∀ s : CsPlugin, (result.2.map Prod.snd).count s =
        if plugins.loaded s ∧ ∃ j ∈ ((build_filter calls).lookup s).getD [],
          strcasecmp_eq j event.source.name then 1 else 0) ∧
      (result.2.map Prod.snd).count event.source = 0 := by
  intro result
  have hok := build_filter_ok calls hcalls
  have htargets : result.2.map Prod.snd = (build_filter calls).entries.filterMap
      fun e => if e.2.any (strcasecmp_eq event.source.name) then some e.1 else none := by
    simp only [result, CsMain.dispatch_plugin_event, List.map_filterMap]
    refine List.filterMap_congr fun e he => ?_
    have hloaded := (hok e.1 e.2 (AList.mem_lookup_iff.mpr he)).1
    rw [dispatch_target_of_loaded hloaded]
    split <;> rfl
  have hcount (s : CsPlugin) : (result.2.map Prod.snd).count s =
      if plugins.loaded s ∧ ∃ j ∈ ((build_filter calls).lookup s).getD [],
        strcasecmp_eq j event.source.name then 1 else 0 := by
    rw [htargets, count_filterMap_of_nodupKeys (fun l => l.any (strcasecmp_eq event.source.name)) s
      (build_filter calls).nodupKeys]
    change (((build_filter calls).lookup s).any _).toNat = _
    cases hl : (build_filter calls).lookup s with
    | none => simp
    | some l =>
      have hany : l.any (strcasecmp_eq event.source.name) =
          decide (∃ j ∈ l, strcasecmp_eq j event.source.name) := by
        simp only [List.any_eq, strcasecmp_eq_comm event.source.name]
      by_cases hm : ∃ j ∈ l, strcasecmp_eq j event.source.name <;> simp [hany, hm, (hok s l hl).1]
  refine ⟨AList.lookup_insert _, fun d hd => ?_, hcount, ?_⟩
  · obtain ⟨e, -, he⟩ := List.mem_filterMap.mp hd
    obtain ⟨target, -, rfl⟩ := Option.map_eq_some'.mp he
    rfl
  · rw [hcount, if_neg]
    rintro ⟨-, j, hj, hjm⟩
    cases hl : (build_filter calls).lookup event.source with
    | none => simp [hl] at hj
    | some l =>
      rw [hl, Option.getD_some] at hj
      have := (hok _ l hl).2 j hj
      rw [this] at hjm
      cases hjm

/-- Plugin `p1` subscribes to `p2`, which emits. -/
theorem CsMain.dispatch_plugin_event_once_p2 :
    let p1 : CsPlugin := ⟨1, "p1".toList⟩
    let p2 : CsPlugin := ⟨2, "p2".toList⟩
    let plugins := (PluginMap.empty.register p1).register p2
    let calls := [(p1, "p2".toList)]
    let event : CsEventPlugin := ⟨p2, ∅⟩
    let result := CsMain.dispatch_plugin_event ⟨plugins, build_filter calls⟩ event
    (∀ c ∈ calls, plugins.loaded c.1) ∧
      (result.1.values.lookup "event_source".toList = some event.source.name ∧
        (∀ d ∈ result.2, d.1 = result.1) ∧
        (∀ s : CsPlugin, (result.2.map Prod.snd).count s =
          if plugins.loaded s ∧ ∃ j ∈ ((build_filter calls).lookup s).getD [],
            strcasecmp_eq j event.source.name then 1 else 0) ∧
        (result.2.map Prod.snd).count event.source = 0) :=
  ⟨by decide, CsMain.dispatch_plugin_event_once _ _ (by decide) _⟩

end clearsync.main
