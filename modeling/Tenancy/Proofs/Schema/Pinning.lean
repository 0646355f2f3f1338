import Tenancy.Proofs.Schema.Connect
import Tenancy.Proofs.Schema.Injection

/-!
# Which search path counts

A pool has the tenant's search path behind all startup options of the base, and a URI has it in the
first parameter of options, with more of them behind it perhaps. Both say then which path counts in
the end (`pins_iff`): the pool's does unless the options in front swallow it, and the URI's unless
they do or the parameters behind it set another one. A base that sets a path in a second parameter
of options overrides the tenant's in the URI and not in the pool (`overridden_behind`).
-/

set_option autoImplicit false

namespace Tenancy.Schema

open Net Text Startup ConnectOptions

/-- The search path that counts for a connection. -/
def ConnectOptions.searchPath? (o : ConnectOptions) : Option (List Char) :=
  Startup.searchPath? (o.text.getD [])

/-- The startup options that a base says up to the parameter that the option is added to. -/
def textBefore (url : Url) : Option (List Char) :=
  ((upToOption (Form.segments (url.query.getD []))).map Form.pair).foldl grown none

/-- The startup options that a base says behind that parameter. -/
def textBehind (url : Url) : List Char :=
  tailOf ((behindOption (Form.segments (url.query.getD []))).map Form.pair)

/-- The startup options of a tenant's URI. -/
def pinnedText (url : Url) (path : List Char) : List Char :=
  joined (textBefore url) (searchPathOption path) ++ textBehind url

theorem tailOf_eq_nil_or_blank (ps : List (List Char × List Char)) :
    tailOf ps = [] ∨ ∃ rest, tailOf ps = ' ' :: rest := by
  unfold tailOf
  cases ps.filterMap addition? with
  | nil => exact .inl rfl
  | cons a as => exact .inr ⟨_, rfl⟩

/-- No startup options at all are as good as empty ones. -/
theorem searchPath?_joined (text : Option (List Char)) (option tail : List Char) :
    Startup.searchPath? (joined text option ++ tail) =
      Startup.searchPath? (text.getD [] ++ ' ' :: (option ++ tail)) := by
  cases text with
  | none => rfl
  | some before => simp [joined]

/-- The search path is set as if by a parameter in brackets behind all others. -/
theorem text_withSetting (o : ConnectOptions) (path : List Char) :
    (o.withSetting "search_path" (String.ofList path)).text =
      some (if o.text.getD [] = [] then searchPathOption path
        else joined o.text (searchPathOption path)) := by
  obtain ⟨key, hkey, hname⟩ : ∃ key, key ≠ optionsName ∧ settingName? key = some "search_path" :=
    ⟨"options[search_path]".toList, by decide, by decide⟩
  have hset := withSetting_setText hkey hname o o.text path
  have hadd : addition? (key, path) = some (searchPathOption path) := by
    have htext : "search_path".toList = pathName := by decide
    rw [addition?, if_neg hkey, hname, Option.map_some, htext, searchPathOption_eq]
    rfl
  rw [setText_text] at hset
  rw [hset, text_setText]
  cases o.text with
  | none =>
    simp only [grown, hadd]
    rfl
  | some before => simp [grown, hadd, joined, hkey]

section Plain

variable {path : List Char} (hpath : ∀ c ∈ path, isPlain c = true)
include hpath

theorem searchPath?_pinnedText (url : Url) :
    Startup.searchPath? (pinnedText url path) =
      (Startup.searchPath? (textBehind url)).or
        (if Complete ((textBefore url).getD []) then some path
        else Startup.searchPath? ((textBefore url).getD [] ++ ' ' :: flag)) := by
  rw [pinnedText, searchPath?_joined]
  exact searchPath?_option hpath (tailOf_eq_nil_or_blank _) _

/-- The search path of a URI counts, unless it is swallowed or another one is set behind it. -/
theorem searchPath?_pinnedText_iff (url : Url) :
    Startup.searchPath? (pinnedText url path) = some path ↔
      (∀ other, Startup.searchPath? (textBehind url) = some other → other = path) ∧
        (Startup.searchPath? (textBehind url) = none →
          Counts ((textBefore url).getD []) path) := by
  rw [pinnedText, searchPath?_joined]
  exact searchPath?_option_iff hpath (tailOf_eq_nil_or_blank _) _

/-- The search path of a pool counts, unless it is swallowed. -/
theorem searchPath?_withSetting_iff (o : ConnectOptions) :
    (o.withSetting "search_path" (String.ofList path)).searchPath? = some path ↔
      Counts (o.text.getD []) path := by
  have htext : Startup.searchPath? ((o.withSetting "search_path" (String.ofList path)).text.getD []) =
      Startup.searchPath? (o.text.getD [] ++ ' ' :: (searchPathOption path ++ [])) := by
    rw [text_withSetting, Option.getD_some, List.append_nil]
    split
    · next hempty => rw [hempty]; rfl
    · have hjoined := searchPath?_joined o.text (searchPathOption path) []
      rwa [List.append_nil, List.append_nil] at hjoined
  have hnone : Startup.searchPath? [] = none := rfl
  rw [ConnectOptions.searchPath?, htext, searchPath?_option_iff hpath (.inl rfl), hnone]
  simp

end Plain

theorem tenantPool_eq {base : String} {o : ConnectOptions} (ho : ConnectOptions.parse base = .ok o)
    (tenant : TenantId) (given : Option String) (fallback : String) (maxConnections : Nat) :
    (tenantPool base tenant given fallback maxConnections : ExceptT Error Logged Pool).run.value =
      .ok ⟨o.forTenant (ofTenant tenant given) fallback, maxConnections⟩ := by
  unfold tenantPool
  rw [ho]
  rfl

section Base

variable {base : String} {url : Url} {o : ConnectOptions} (hurl : Url.parse base = .ok url)
  (hpg : isPostgres url.scheme = true) (ho : ConnectOptions.parse base = .ok o)
include hurl hpg ho

/-- The URI of a tenant's database is read like the base, with the option behind the startup options
in front of it. -/
theorem parse_tenantUri (tenant : TenantId) (given : Option String) (fallback : String) :
    ∃ uri, tenantUri base tenant given fallback = .ok uri ∧
      ConnectOptions.parse uri = .ok (o.setText
        (some (pinnedText url (searchPath (ofTenant tenant given) fallback).toList))) := by
  generalize hpath : (searchPath (ofTenant tenant given) fallback).toList = path
  refine ⟨(pinned url path).render, by rw [tenantUri_eq hurl hpg, hpath], ?_⟩
  have hread : ofUrl url = .ok o := by
    simp only [ConnectOptions.parse, hurl] at ho
    cases hof : ofUrl url with
    | error e =>
      rw [hof] at ho
      cases ho
    | ok o₁ =>
      rw [hof] at ho
      cases ho
      rfl
  have hpairs : Form.pairs ((pinned url path).query.getD []) =
      (addOption (Form.encodeComponent (searchPathOption path))
        (Form.segments (url.query.getD []))).map Form.pair := by
    rw [Form.pairs, segments_pinned hurl hpg]
    rfl
  have hothers : others (Form.pairs ((pinned url path).query.getD [])) =
      others (Form.pairs (url.query.getD [])) := by
    rw [hpairs, others_addOption]
    rfl
  have hoption : searchPathOption path ≠ [] := by
    rw [searchPathOption_eq]
    exact List.cons_ne_nil _ _
  obtain ⟨-, hpinned⟩ := ofUrl_of_others hread (rfl : ofFront (pinned url path) = ofFront url) hothers
  rw [ConnectOptions.parse, parse_pinned hurl hpg path]
  simp only [hpinned, startup, hpairs, foldl_grown_addOption hoption]
  rfl

/-- **Which search path counts in the end, in a tenant's URI and in its pool.** For every base that
is read, the URI and the pool say the same but for the startup options; the tenant's path counts in
the pool exactly if it counts behind all the options of the base, and in the URI exactly if the
parameters behind it set no other path last, and, where they set none, if it counts behind the
options in front of it. -/
theorem pins_iff (tenant : TenantId) (given : Option String) (fallback : String)
    (hschema : TenantId.isValidText (ofTenant tenant given) = true)
    (hfallback : TenantId.isValidText fallback = true) (maxConnections : Nat) :
    ∃ uri o' pool path, path = (searchPath (ofTenant tenant given) fallback).toList ∧
      tenantUri base tenant given fallback = .ok uri ∧
      ConnectOptions.parse uri = .ok o' ∧ o'.setText o.text = o ∧
      (tenantPool base tenant given fallback maxConnections : ExceptT Error Logged Pool).run.value =
        .ok pool ∧ pool.options.setText o.text = o ∧
      (o'.searchPath? = some path ↔
        (∀ other, Startup.searchPath? (textBehind url) = some other → other = path) ∧
          (Startup.searchPath? (textBehind url) = none →
            Counts ((textBefore url).getD []) path)) ∧
      (pool.options.searchPath? = some path ↔ Counts (o.text.getD []) path) := by
  have hplain : ∀ c ∈ (searchPath (ofTenant tenant given) fallback).toList, isPlain c = true := by
    rw [searchPath_toList, isPlain_searchPathChars_iff]
    exact ⟨isPlain_of_isValidText hschema, isPlain_of_isValidText hfallback⟩
  obtain ⟨uri, huri, hparse⟩ := parse_tenantUri hurl hpg ho tenant given fallback
  refine ⟨uri, _, _, _, rfl, huri, hparse, ?_, tenantPool_eq ho tenant given fallback maxConnections,
    ?_, ?_, ?_⟩
  · rw [setText_setText, setText_text]
  · exact setText_text o
  · rw [ConnectOptions.searchPath?, text_setText, Option.getD_some]
    exact searchPath?_pinnedText_iff hplain url
  · have hpool := searchPath?_withSetting_iff hplain o
    rw [String.ofList_toList] at hpool
    exact hpool

end Base

/-! ## Two bases with options -/

/-- A base with one parameter of options. -/
def ownBase : String := "postgres://host/db?options=-c%20geqo%3Doff&sslmode=require"

def ownUrl : Url :=
  { plainBase with query := some "options=-c%20geqo%3Doff&sslmode=require".toList }

def ownOptions : ConnectOptions := ⟨"host", 5432, some "db", some "-c geqo=off"⟩

/-- A base whose second parameter of options sets a search path. -/
def otherBase : String :=
  "postgres://host/db?options=-c%20geqo%3Doff&options=-c%20search_path%3Dother"

def otherUrl : Url :=
  { plainBase with
    query := some "options=-c%20geqo%3Doff&options=-c%20search_path%3Dother".toList }

def otherOptions : ConnectOptions :=
  ⟨"host", 5432, some "db", some "-c geqo=off -c search_path=other"⟩

/-- With one parameter of options, the tenant's search path counts both ways. -/
theorem pins_iff_sample :
    ∃ uri o' pool, tenantUri ownBase ⟨"acme"⟩ none "public" = .ok uri ∧
      ConnectOptions.parse uri = .ok o' ∧
      (tenantPool ownBase ⟨"acme"⟩ none "public" 1 : ExceptT Error Logged Pool).run.value =
        .ok pool ∧
      o'.searchPath? = some "acme,public".toList ∧
      pool.options.searchPath? = some "acme,public".toList := by
  have hpath : (searchPath (ofTenant ⟨"acme"⟩ none) "public").toList = "acme,public".toList := by
    decide
  have hbefore : Complete ((textBefore ownUrl).getD []) := by decide
  have hbase : Complete (ownOptions.text.getD []) := by decide
  have hbehind : Startup.searchPath? (textBehind ownUrl) = none := by decide
  have hurl : Url.parse ownBase = .ok ownUrl := rfl
  have ho : ConnectOptions.parse ownBase = .ok ownOptions := rfl
  obtain ⟨uri, o', pool, path, rfl, huri, ho', -, hpool, -, hpins, hcounts⟩ :=
    pins_iff hurl (by decide) ho ⟨"acme"⟩ none "public" (by decide) (by decide) 1
  rw [hpath] at hpins hcounts
  refine ⟨uri, o', pool, huri, ho', hpool, hpins.mpr ⟨?_, fun _ => .inl hbefore⟩,
    hcounts.mpr (.inl hbase)⟩
  intro other hother
  rw [hbehind] at hother
  cases hother

/-- With a second parameter of options behind it, another search path counts in the URI, and the
tenant's only in the pool. -/
theorem overridden_behind :
    ∃ uri o' pool, tenantUri otherBase ⟨"acme"⟩ none "public" = .ok uri ∧
      ConnectOptions.parse uri = .ok o' ∧
      (tenantPool otherBase ⟨"acme"⟩ none "public" 1 : ExceptT Error Logged Pool).run.value =
        .ok pool ∧
      o'.searchPath? = some "other".toList ∧
      pool.options.searchPath? = some "acme,public".toList := by
  have hpath : (searchPath (ofTenant ⟨"acme"⟩ none) "public").toList = "acme,public".toList := by
    decide
  have hplain : ∀ c ∈ (searchPath (ofTenant ⟨"acme"⟩ none) "public").toList, isPlain c = true :=
    List.all_eq_true.mp (by decide)
  have hbehind : Startup.searchPath? (textBehind otherUrl) = some "other".toList := by decide
  have hbase : Complete (otherOptions.text.getD []) := by decide
  have ho : ConnectOptions.parse otherBase = .ok otherOptions := rfl
  have hurl : Url.parse otherBase = .ok otherUrl := rfl
  obtain ⟨uri, huri, hparse⟩ := parse_tenantUri hurl (by decide) ho ⟨"acme"⟩ none "public"
  refine ⟨uri, _, _, huri, hparse, tenantPool_eq ho ⟨"acme"⟩ none "public" 1, ?_, ?_⟩
  · rw [ConnectOptions.searchPath?, text_setText, Option.getD_some,
      searchPath?_pinnedText hplain, hbehind]
    rfl
  · have hpool := (searchPath?_withSetting_iff hplain otherOptions).mpr (.inl hbase)
    rw [String.ofList_toList, hpath] at hpool
    exact hpool

end Tenancy.Schema
