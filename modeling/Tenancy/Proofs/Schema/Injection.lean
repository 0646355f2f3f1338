import Tenancy.Proofs.Schema.Query
import Tenancy.Proofs.Schema.Startup

/-!
# What a tenant's name can put into the startup options

The option that sets the search path is protected twice, as a list of schemas by quotes and as a
part of a query by encoding. What reads it in the end is neither of the two: the server cuts startup
options at blanks, quotes or not, and takes backslashes away. So the option is the one setting that
was meant exactly if the names of both schemas are free of blanks and backslashes
(`sole_setting_iff`). A header may name any tenant, and with it any setting
(`smuggled_setting`).
-/

set_option autoImplicit false

namespace Tenancy.Schema

open Net Text Startup

theorem searchPath_toList (schema fallback : String) :
    (searchPath schema fallback).toList = searchPathChars schema.toList fallback.toList := by
  rw [searchPath, String.toList_ofList]

/-- The arguments that a search path is to be set with. -/
def intended (path : String) : List (List Char) :=
  ["-c".toList, ("search_path=" ++ path).toList]

theorem intended_eq (path : String) : intended path = [flag, pathSetting path.toList] := by
  have hname : "search_path=".toList = pathName ++ ['='] := by decide
  have hflag : "-c".toList = flag := by decide
  rw [intended, String.toList_append, hname, hflag, List.append_assoc, List.singleton_append,
    pathSetting]

section Base

variable {base : String} {url : Url} (hurl : Url.parse base = .ok url)
  (hpg : isPostgres url.scheme = true)
  (hnone : ∀ p ∈ Form.pairs (url.query.getD []), p.1 ≠ optionsName)
include hurl hpg hnone

/-- Where the base has no options, the option is a parameter of its own behind all others, and any
reading of it gives the same text. -/
theorem exists_own_parameter (tenant : TenantId) (given : Option String) (fallback : String) :
    ∃ uri u value, tenantUri base tenant given fallback = .ok uri ∧ Url.parse uri = .ok u ∧
      Form.segments (u.query.getD []) =
        Form.segments (url.query.getD []) ++ [optionsKey ++ value] ∧
      Form.decodeComponent value =
        searchPathOption (searchPath (ofTenant tenant given) fallback).toList ∧
      Percent.decodeText value =
        .ok (searchPathOption (searchPath (ofTenant tenant given) fallback).toList) := by
  generalize hpath : (searchPath (ofTenant tenant given) fallback).toList = path
  have hnone : ∀ s ∈ Form.segments (url.query.getD []), optionsValue? s = none := fun s hs =>
    optionsValue?_eq_none (hnone _ (List.mem_map_of_mem hs))
  refine ⟨(pinned url path).render, pinned url path, encodedOption path, ?_,
    parse_pinned hurl hpg path, ?_, ?_, ?_⟩
  · rw [tenantUri_eq hurl hpg, hpath]
  · rw [segments_pinned hurl hpg, addOption_of_forall_none hnone]
    rfl
  · exact Form.decodeComponent_encodeComponent _
  · rw [Percent.decodeText, encodedOption, Form.decode_encodeComponent, decode_octets]

/-- **A tenant's name adds no startup option exactly if it is read as one argument.** In the URI of
any tenant over a base without options there is one parameter of options, last, which reads as the
same text with plus signs as spaces or as they are; and the server takes the setting of the search
path from it, and nothing else, if and only if neither the schema nor the one behind it has a blank
or a backslash. -/
theorem sole_setting_iff (tenant : TenantId) (given : Option String) (fallback : String) :
    ∃ uri u value text, tenantUri base tenant given fallback = .ok uri ∧ Url.parse uri = .ok u ∧
      Form.segments (u.query.getD []) =
        Form.segments (url.query.getD []) ++ [optionsKey ++ value] ∧
      Form.decodeComponent value = text ∧ Percent.decodeText value = .ok text ∧
      (arguments text = intended (searchPath (ofTenant tenant given) fallback) ↔
        (∀ c ∈ (ofTenant tenant given).toList, isPlain c = true) ∧
          ∀ c ∈ fallback.toList, isPlain c = true) := by
  obtain ⟨uri, u, value, huri, hu, hsegments, hform, hplain⟩ :=
    exists_own_parameter hurl hpg hnone tenant given fallback
  refine ⟨uri, u, value, _, huri, hu, hsegments, hform, hplain, ?_⟩
  rw [intended_eq, arguments_searchPathOption_iff, searchPath_toList, isPlain_searchPathChars_iff]

end Base

/-- A base without options. -/
def plainBase : Url := ⟨"postgres".toList, some ⟨[], none, "host".toList, none⟩, "/db".toList, none, none⟩

/-- A valid id over a base without options. -/
theorem sole_setting_iff_sample :
    ∃ uri u value text, tenantUri "postgres://host/db" ⟨"tenant-abc"⟩ none "public" = .ok uri ∧
      Url.parse uri = .ok u ∧ Form.segments (u.query.getD []) = [optionsKey ++ value] ∧
      Form.decodeComponent value = text ∧ arguments text = intended "\"tenant-abc\",public" := by
  have hurl : Url.parse "postgres://host/db" = .ok plainBase := rfl
  have hnone : ∀ p ∈ Form.pairs (plainBase.query.getD []), p.1 ≠ optionsName := by decide
  obtain ⟨uri, u, value, text, huri, hu, hsegments, hform, -, hiff⟩ :=
    sole_setting_iff hurl (by decide) hnone ⟨"tenant-abc"⟩ none "public"
  refine ⟨uri, u, value, text, huri, hu, hsegments, hform, ?_⟩
  exact hiff.mpr ⟨List.all_eq_true.mp (by decide), List.all_eq_true.mp (by decide)⟩

/-- A tenant that is named `x -c statement_timeout=0` sets the statement timeout. -/
theorem smuggled_setting :
    ∃ uri u value, tenantUri "postgres://host/db" ⟨"x -c statement_timeout=0"⟩ none "public" =
        .ok uri ∧
      Url.parse uri = .ok u ∧ Form.segments (u.query.getD []) = [optionsKey ++ value] ∧
      arguments (Form.decodeComponent value) =
        ["-c".toList, "search_path=\"x".toList, "-c".toList,
          "statement_timeout=0\",public".toList] ∧
      arguments (Form.decodeComponent value) ≠
        intended (searchPath "x -c statement_timeout=0" "public") := by
  have hurl : Url.parse "postgres://host/db" = .ok plainBase := rfl
  have hnone : ∀ p ∈ Form.pairs (plainBase.query.getD []), p.1 ≠ optionsName := by decide
  obtain ⟨uri, u, value, huri, hu, hsegments, hform, -⟩ :=
    exists_own_parameter hurl (by decide) hnone ⟨"x -c statement_timeout=0"⟩ none "public"
  have harguments : arguments (Form.decodeComponent value) =
      ["-c".toList, "search_path=\"x".toList, "-c".toList,
        "statement_timeout=0\",public".toList] := by
    rw [hform]
    decide
  refine ⟨uri, u, value, huri, hu, hsegments, harguments, ?_⟩
  rw [harguments]
  decide

end Tenancy.Schema
