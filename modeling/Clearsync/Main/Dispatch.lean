import Clearsync.Main.Filter
import Mathlib.Data.List.AList

namespace clearsync.main

/-- A plugin object, `csPlugin *`: its address and the name it was loaded under. -/
structure CsPlugin where
  addr : Nat
  name : List Char
deriving DecidableEq, Repr

/-- `csMain::plugin` seen through `csPluginLoader::GetPlugin()`. Every plugin is
    registered under its own name, as `ParseElementOpen` does with
    `plugin[name] = new csPluginLoader(library, name, ...)`. -/
structure PluginMap where
  plugin : AList fun _ : List Char => CsPlugin
  name_eq : ∀ name pl, plugin.lookup name = some pl → pl.name = name

/-- `csMain::plugin` as the `csMain` constructor creates it. -/
def PluginMap.empty : PluginMap := ⟨∅, fun _ _ h => by simp at h⟩

/-- The registration of a newly loaded plugin in `ParseElementOpen`: a duplicate name is a
    parse error and leaves the map alone, otherwise `plugin[name] = plugin`. -/
def PluginMap.register (m : PluginMap) (pl : CsPlugin) : PluginMap :=
  if pl.name ∈ m.plugin then m
  else ⟨m.plugin.insert pl.name pl, fun name pl' h => by
    by_cases hname : name = pl.name
    · subst hname
      rw [AList.lookup_insert, Option.some.injEq] at h
      exact h ▸ rfl
    · exact m.name_eq name pl' (by rwa [AList.lookup_insert_ne hname] at h)⟩

/-- `pl` is one of the loaded plugins. -/
def PluginMap.loaded (m : PluginMap) (pl : CsPlugin) : Prop := m.plugin.lookup pl.name = some pl

instance (m : PluginMap) (pl : CsPlugin) : Decidable (m.loaded pl) :=
  inferInstanceAs (Decidable (m.plugin.lookup pl.name = some pl))

/-- `csMain::plugin_event_filter`, `map<csPlugin *, vector<string> >`. -/
abbrev FilterTable := AList fun _ : CsPlugin => List (List Char)

/-- `plugin_event_filter[plugin].push_back(atom)`. -/
def push_filter (table : FilterTable) (pl : CsPlugin) (atom : List Char) : FilterTable :=
  table.insert pl ((table.lookup pl).getD [] ++ [atom])

/-- `csMain::ParseEventFilter(plugin, text)`. -/
def parse_event_filter (table : FilterTable) (pl : CsPlugin) (text : List Char) : FilterTable :=
  (event_filter_atoms pl.name text).foldl (push_filter · pl) table

/-- The filter table after the `ParseEventFilter` calls of a configuration, from the empty
    table of the `csMain` constructor. -/
def build_filter (calls : List (CsPlugin × List Char)) : FilterTable :=
  calls.foldl (fun table c => parse_event_filter table c.1 c.2) ∅

/-- `csEventPlugin`. Modelled from the spec: a PLUGIN event carries its source plugin and
    a key/value payload set by `SetValue`; `Clone` copies both. -/
structure CsEventPlugin where
  source : CsPlugin
  values : AList fun _ : List Char => List Char

def CsEventPlugin.set_value (e : CsEventPlugin) (key value : List Char) : CsEventPlugin :=
  { e with values := e.values.insert key value }

def CsEventPlugin.clone (e : CsEventPlugin) : CsEventPlugin := e

/-- The plugin state of `csMain`. -/
structure CsMain where
  plugin : PluginMap
  plugin_event_filter : FilterTable

/-- The inner loop of `DispatchPluginEvent` over the filter list of `sub`: the plugin that
    the first entry equal to `name` up to case dispatches to, an entry whose subscriber is
    not found by name being skipped. -/
def dispatch_target (plugin : PluginMap) (name : List Char) (sub : CsPlugin) :
    List (List Char) → Option CsPlugin
  | [] => none
  | j :: js =>
    if strcasecmp_eq name j then
      match plugin.plugin.lookup sub.name with
      | some target => some target
      | none => dispatch_target plugin name sub js
    else dispatch_target plugin name sub js

/-- `csMain::DispatchPluginEvent`: the stamped event, and the clones dispatched with
    their target plugins, in the order of the filter table. -/
def CsMain.dispatch_plugin_event (m : CsMain) (event : CsEventPlugin) :
    CsEventPlugin × List (CsEventPlugin × CsPlugin) :=
  let stamped := event.set_value "event_source".toList event.source.name
  (stamped, m.plugin_event_filter.entries.filterMap fun e =>
    (dispatch_target m.plugin event.source.name e.1 e.2).map (stamped.clone, ·))

/-- `csMain::ValidateConfiguration`: the filter entries it warns "Event filter plugin not
    found" about, in table order: those that `plugin.find`, a lookup by exact name, misses. -/
def CsMain.validate_configuration (m : CsMain) : List (List Char) :=
  m.plugin_event_filter.entries.flatMap fun e => e.2.filter fun j => j ∉ m.plugin.plugin

end clearsync.main
