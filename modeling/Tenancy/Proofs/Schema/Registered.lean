import Tenancy.Proofs.Registry.Reachable
import Tenancy.Proofs.Schema.Names
import Tenancy.Proofs.Schema.Pinning

/-!
# Registered tenants work in their own schema

From the registration of a tenant to the names that the server looks tables up by, a schema's name
goes through many hands: it is checked, kept, defaulted, written into a search path, encoded into a
URI or put behind the options of a pool, decoded, cut into arguments, and taken apart again. For a
registered tenant, over checked settings, it comes out as it went in (`registered_pinned`).

The base may have startup options of its own, as long as they are in one parameter and leave nothing
open at its end: the server reads them first, and then the search path.
-/

set_option autoImplicit false

namespace Tenancy.Schema

open Net Text Startup ConnectOptions

/-- A query that has startup options in one parameter at most, which does not end in a backslash,
and none in brackets. -/
structure OneOption (ps : List (List Char × List Char)) : Prop where
  single : (ps.countP fun p => p.1 = optionsName) ≤ 1
  noSetting : ∀ p ∈ ps, settingName? p.1 = none
  closed : ∀ p ∈ ps, p.1 = optionsName → p.2.getLast? ≠ some '\\'

/-! ## One parameter of options -/

section NoAddition

variable {ps : List (List Char × List Char)} (h : ∀ p ∈ ps, addition? p = none)
include h

theorem foldl_grown_of_forall_none (text : Option (List Char)) : ps.foldl grown text = text := by
  induction ps with
  | nil => rfl
  | cons p ps ih =>
    rw [List.foldl_cons, grown_of_none (h p List.mem_cons_self)]
    exact ih fun q hq => h q (List.mem_cons_of_mem _ hq)

theorem tailOf_of_forall_none : tailOf ps = [] := by
  rw [tailOf, List.filterMap_eq_nil_iff.mpr h]
  rfl

end NoAddition

theorem upToOption_of_forall_none {ss : List (List Char)} (h : ∀ s ∈ ss, optionsValue? s = none) :
    upToOption ss = ss ∧ behindOption ss = [] := by
  induction ss with
  | nil => exact ⟨rfl, rfl⟩
  | cons s ss ih =>
    obtain ⟨hup, hbehind⟩ := ih fun t ht => h t (List.mem_cons_of_mem _ ht)
    rw [upToOption, behindOption, h s List.mem_cons_self]
    exact ⟨congrArg (s :: ·) hup, hbehind⟩

theorem grown_none_of_options {p : List Char × List Char} (hp : p.1 = optionsName) :
    grown none p = some p.2 := by
  simp only [grown, addition?, if_pos hp]

namespace OneOption

variable {p : List Char × List Char} {ps : List (List Char × List Char)}

theorem tail (h : OneOption (p :: ps)) : OneOption ps where
  single := Nat.le_trans (List.Sublist.countP_le (List.sublist_cons_self _ _)) h.single
  noSetting q hq := h.noSetting q (List.mem_cons_of_mem _ hq)
  closed q hq := h.closed q (List.mem_cons_of_mem _ hq)

theorem addition?_of_ne (h : OneOption (p :: ps)) (hp : p.1 ≠ optionsName) :
    addition? p = none := by
  rw [addition?, if_neg hp, h.noSetting p List.mem_cons_self]
  rfl

/-- Behind a parameter of options nothing is added any more. -/
theorem addition?_of_mem (h : OneOption (p :: ps)) (hp : p.1 = optionsName) :
    ∀ q ∈ ps, addition? q = none := by
  have hcount : (ps.countP fun q => q.1 = optionsName) = 0 := by
    have hsingle := h.single
    rw [List.countP_cons_of_pos (by simpa using hp)] at hsingle
    omega
  intro q hq
  have hne : q.1 ≠ optionsName := by simpa using List.countP_eq_zero.mp hcount q hq
  rw [addition?, if_neg hne, h.noSetting q (List.mem_cons_of_mem _ hq)]
  rfl

/-- The startup options are the value of the one parameter, and nothing is left open at their end. -/
theorem getLast?_foldl_grown (h : OneOption ps) :
    ((ps.foldl grown none).getD []).getLast? ≠ some '\\' := by
  induction ps with
  | nil => simp
  | cons p ps ih =>
    by_cases hp : p.1 = optionsName
    · rw [List.foldl_cons, grown_none_of_options hp,
        foldl_grown_of_forall_none (h.addition?_of_mem hp)]
      exact h.closed p List.mem_cons_self hp
    · rw [List.foldl_cons, grown_of_none (h.addition?_of_ne hp)]
      exact ih h.tail

/-- The option of a tenant is put behind all startup options of the base, and nothing stands behind
it. An empty parameter of options gives its place to it. -/
theorem upToOption_behindOption {ss : List (List Char)} (h : OneOption (ss.map Form.pair)) :
    (((upToOption ss).map Form.pair).foldl grown none).getD [] =
        ((ss.map Form.pair).foldl grown none).getD [] ∧
      tailOf ((behindOption ss).map Form.pair) = [] := by
  induction ss with
  | nil => exact ⟨rfl, rfl⟩
  | cons s ss ih =>
    by_cases hs : (Form.pair s).1 = optionsName
    · have hnone := h.addition?_of_mem hs
      have hfold : ((s :: ss).map Form.pair).foldl grown none = some (Form.pair s).2 := by
        rw [List.map_cons, List.foldl_cons, grown_none_of_options hs,
          foldl_grown_of_forall_none hnone]
      cases hvalue : optionsValue? s with
      | some existing =>
        have hpair := pair_of_optionsValue? hvalue
        simp only [upToOption, behindOption, hvalue]
        refine ⟨?_, tailOf_of_forall_none hnone⟩
        rw [hfold, hpair]
        split
        · next hexisting => rw [hexisting]; rfl
        · rw [List.map_singleton, List.foldl_cons, grown_none_of_options hs, hpair]
          rfl
      | none =>
        -- the name is written in another way, and the option gets a parameter of its own
        have hrest : ∀ t ∈ ss, optionsValue? t = none := by
          intro t ht
          refine optionsValue?_eq_none fun hname => ?_
          have hadd := hnone _ (List.mem_map_of_mem ht)
          rw [addition?, if_pos hname] at hadd
          cases hadd
        obtain ⟨hup, hbehind⟩ := upToOption_of_forall_none hrest
        simp only [upToOption, behindOption, hvalue, hup, hbehind]
        exact ⟨trivial, rfl⟩
    · have hgrown := grown_of_none (h.addition?_of_ne hs) none
      simp only [upToOption, behindOption, optionsValue?_eq_none hs, List.map_cons,
        List.foldl_cons, hgrown]
      exact ih h.tail

end OneOption

/-! ## Behind the startup options of the base -/

/-- Only a backslash at its end makes what follows a text literal. -/
theorem isOpen_behind_of_getLast? {cs : List Char} (h : cs.getLast? ≠ some '\\') :
    (Place.between.behind cs).isOpen = false := by
  rcases List.eq_nil_or_concat cs with rfl | ⟨front, c, rfl⟩
  · rfl
  · rw [List.concat_eq_append] at h ⊢
    have hc : c ≠ '\\' := fun hc => h (by rw [List.getLast?_concat, hc])
    rw [Place.behind_append]
    show ((Place.between.behind front).step c).2.isOpen = false
    cases Place.between.behind front <;> simp only [Place.step] <;> (repeat' split) <;> trivial

section Plain

variable {path : List Char} (hpath : ∀ c ∈ path, isPlain c = true) {text : Option (List Char)}
  (htext : (text.getD []).getLast? ≠ some '\\')
include hpath htext

theorem arguments_joined :
    arguments (joined text (searchPathOption path)) =
      arguments (text.getD []) ++ [flag, pathSetting path] := by
  have hoption := (arguments_searchPathOption_iff path).mpr hpath
  cases text with
  | none => exact hoption
  | some before =>
    have hopen : (Place.between.behind before).isOpen = false := isOpen_behind_of_getLast? htext
    rw [joined, arguments_append_blank hopen, hoption]
    rfl

theorem arguments_withSetting {o : ConnectOptions} (ho : o.text = text) :
    arguments ((o.withSetting "search_path" (String.ofList path)).text.getD []) =
      arguments (o.text.getD []) ++ [flag, pathSetting path] := by
  rw [text_withSetting, Option.getD_some, ho]
  split
  · next hempty =>
    rw [hempty]
    exact (arguments_searchPathOption_iff path).mpr hpath
  · exact arguments_joined hpath htext

end Plain

/-- The startup options are those that the parameters of the query add. -/
theorem text_of_parse {base : String} {url : Url} {o : ConnectOptions}
    (hurl : Url.parse base = .ok url) (ho : ConnectOptions.parse base = .ok o) :
    o.text = startup url.query := by
  simp only [ConnectOptions.parse, hurl] at ho
  cases hread : ofUrl url with
  | error e =>
    rw [hread] at ho
    cases ho
  | ok o₁ =>
    rw [hread] at ho
    cases ho
    exact (ofUrl_of_others hread rfl rfl).1

theorem ne_nil_of_isValidText {s : String} (h : TenantId.isValidText s = true) : s.toList ≠ [] :=
  fun hnil => absurd (hnil ▸ (TenantId.isValidText_iff.mp h).1) (by decide)

/-- **Registered tenants are pinned to their own schema, from the registry to the server.** For every
record of a directory that can be reached, over settings that were checked and a base of Postgres
with startup options in one parameter at most, the URI and the pool of the record's tenant have the
base's own arguments and behind them the one that sets the search path; and that path names the
record's schema and the one configured to stand behind it. -/
theorem registered_pinned {d : Registry.Directory} (hd : d.Reachable) {r : Registry.Record}
    (hr : r ∈ d.records) {settings : Settings} (hsettings : settings.check = .ok ())
    {base : String} {url : Url} {o : ConnectOptions} (hurl : Url.parse base = .ok url)
    (hpg : isPostgres url.scheme = true) (ho : ConnectOptions.parse base = .ok o)
    (hbase : OneOption (Form.pairs (url.query.getD []))) (maxConnections : Nat) :
    ∃ uri o' pool path,
      settings.tenantUri base r.tenantId r.databaseSchema = .ok uri ∧
      ConnectOptions.parse uri = .ok o' ∧
      (settings.tenantPool base r.tenantId r.databaseSchema maxConnections :
        ExceptT Error Logged Pool).run.value = .ok pool ∧
      arguments (o'.text.getD []) = arguments (o.text.getD []) ++ intended path ∧
      arguments (pool.options.text.getD []) = arguments (o.text.getD []) ++ intended path ∧
      names path.toList = some [r.schemaName.toList, settings.fallbackSchema.toList] := by
  have hschema := (Registry.Directory.checked_of_reachable hd r hr).isValidText_schemaName
  have hfallback := (Settings.check_eq_ok_iff.mp hsettings).2.2.2.2
  obtain ⟨uri, huri, hparse⟩ :=
    parse_tenantUri hurl hpg ho r.tenantId r.databaseSchema settings.fallbackSchema
  have hname : ofTenant r.tenantId r.databaseSchema = r.schemaName := rfl
  rw [hname] at hparse
  have hplain : ∀ c ∈ (searchPath r.schemaName settings.fallbackSchema).toList, isPlain c = true := by
    rw [searchPath_toList, isPlain_searchPathChars_iff]
    exact ⟨isPlain_of_isValidText hschema, isPlain_of_isValidText hfallback⟩
  have htext : o.text = startup url.query := text_of_parse hurl ho
  have hclosed : ((o.text).getD []).getLast? ≠ some '\\' := htext ▸ hbase.getLast?_foldl_grown
  obtain ⟨hbefore, hbehind⟩ := OneOption.upToOption_behindOption hbase
  refine ⟨uri, _, _, searchPath r.schemaName settings.fallbackSchema, huri, hparse,
    tenantPool_eq ho r.tenantId r.databaseSchema settings.fallbackSchema maxConnections, ?_, ?_, ?_⟩
  · have htextBefore : (textBefore url).getD [] = o.text.getD [] := by
      rw [htext]
      exact hbefore
    have htextBehind : textBehind url = [] := hbehind
    rw [text_setText, Option.getD_some, pinnedText, htextBehind, List.append_nil, intended_eq,
      arguments_joined hplain (by rwa [htextBefore]), htextBefore]
  · have hpool := arguments_withSetting hplain hclosed rfl
    rw [String.ofList_toList] at hpool
    rw [intended_eq]
    exact hpool
  · rw [searchPath_toList]
    exact names_searchPathChars (ne_nil_of_isValidText hschema) (ne_nil_of_isValidText hfallback)

/-- A tenant whose schema has to be quoted, over a base with an option of its own. -/
def sampleTenant : Registry.NewTenant := ⟨"acme", "Acme", none, some "Acme-Data", none⟩

theorem registered_pinned_sample :
    ∃ d : Registry.Directory, d.Reachable ∧
      ∃ r ∈ d.records, r.schemaName = "Acme-Data" ∧ Settings.default.check = .ok () ∧
        ∃ uri o' path, Settings.default.tenantUri ownBase r.tenantId r.databaseSchema = .ok uri ∧
          ConnectOptions.parse uri = .ok o' ∧
          arguments (o'.text.getD []) = ["-c".toList, "geqo=off".toList] ++ intended path ∧
          names path.toList = some ["Acme-Data".toList, "public".toList] := by
  have hd : (Registry.Directory.empty.after default (.create sampleTenant none)).Reachable :=
    .after default _ .empty
  have hr : sampleTenant.record none default ∈
      (Registry.Directory.empty.after default (.create sampleTenant none)).records :=
    List.mem_singleton.mpr rfl
  have hsettings : Settings.default.check = .ok () := rfl
  have hurl : Url.parse ownBase = .ok ownUrl := rfl
  have ho : ConnectOptions.parse ownBase = .ok ownOptions := rfl
  have hbase : OneOption (Form.pairs (ownUrl.query.getD [])) :=
    ⟨by decide, by decide, by decide⟩
  have hown : arguments (ownOptions.text.getD []) = ["-c".toList, "geqo=off".toList] := by decide
  obtain ⟨uri, o', pool, path, huri, ho', -, harguments, -, hnames⟩ :=
    registered_pinned hd hr hsettings hurl (by decide) ho hbase 1
  exact ⟨_, hd, _, hr, rfl, hsettings, uri, o', path, huri, ho', hown ▸ harguments, hnames⟩

end Tenancy.Schema
