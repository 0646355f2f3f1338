import Tenancy.Proofs.Schema.Startup
import Tenancy.Proofs.Text.LowerCase

/-!
# Names in a search path, as the server reads them

The server takes a search path apart into the names of schemas. They stand between commas, and
blanks around them do not count. A name between double quotes is taken as it is, a doubled quote in
it for one; any other name ends at a comma or a blank and is folded to lower case. A path with an
empty name that is not quoted, or with anything else behind a name than a comma, is refused.

Written without quotes are only names that the folding leaves alone and in which nothing ends them.
So what was written is what is read (`names_searchPathChars`), unless it is empty: an empty name is
written without quotes.
-/

set_option autoImplicit false

namespace Tenancy.Schema

open Text

namespace Names

/-- Where reading stands: in front of a name, which has to follow if it is `due`; inside of one of
which something has been read, without quotes or between them; behind a quote, which ends the name
unless another quote follows; or behind a name. -/
inductive Place where
  | before (due : Bool)
  | bare (read : List Char)
  | quoted (read : List Char)
  | quote (read : List Char)
  | behind
  deriving DecidableEq, Repr

namespace Place

/-- One character, which may end a name or be refused. -/
def step : Place → Char → Option (List (List Char) × Place)
  | .before due, c =>
    if Startup.isBlank c then some ([], .before due)
    else if c = '"' then some ([], .quoted [])
    else if c = ',' then none
    else some ([], .bare [c])
  | .bare read, c =>
    if Startup.isBlank c then some ([read.map Char.toLower], .behind)
    else if c = ',' then some ([read.map Char.toLower], .before true)
    else some ([], .bare (read ++ [c]))
  | .quoted read, c => some ([], if c = '"' then .quote read else .quoted (read ++ [c]))
  | .quote read, c =>
    if c = '"' then some ([], .quoted (read ++ ['"']))
    else if Startup.isBlank c then some ([read], .behind)
    else if c = ',' then some ([read], .before true)
    else none
  | .behind, c =>
    if Startup.isBlank c then some ([], .behind)
    else if c = ',' then some ([], .before true)
    else none

/-- What the end of the path ends. -/
def ended : Place → Option (List (List Char))
  | .before due => if due then none else some []
  | .bare read => some [read.map Char.toLower]
  | .quoted _ => none
  | .quote read => some [read]
  | .behind => some []

end Place

/-- The names in a path, from a place on. -/
def namesFrom (p : Place) : List Char → Option (List (List Char))
  | [] => p.ended
  | c :: cs => (p.step c).bind fun s => (namesFrom s.2 cs).map (s.1 ++ ·)

end Names

open Names

/-- The names of the schemas in a search path. -/
def names (path : List Char) : Option (List (List Char)) := namesFrom (.before false) path

namespace Names

variable {p q : Place} {c : Char} {cs rest : List Char}

theorem namesFrom_cons_of_step (h : p.step c = some ([], q)) :
    namesFrom p (c :: cs) = namesFrom q cs := by
  rw [namesFrom, h, Option.bind_some]
  cases namesFrom q cs <;> rfl

/-! ## Names without quotes -/

/-- What the characters of a name without quotes are not. -/
theorem of_isBare (h : isBare c = true) :
    Startup.isBlank c = false ∧ c ≠ '"' ∧ c ≠ ',' ∧ c.toLower = c := by
  have hid : TenantId.isIdChar c = true := by
    simp only [isBare, Bool.or_eq_true] at h
    have halpha : c.isAlpha = (c.isUpper || c.isLower) := rfl
    simp only [TenantId.isIdChar, Char.isAlphanum, halpha, Bool.or_eq_true]
    rcases h with (h | h) | h
    · exact .inl (.inl (.inl (.inr h)))
    · exact .inl (.inl (.inr h))
    · exact .inl (.inr h)
  have hall : isBare c = true → Startup.isBlank c = false ∧ c ≠ '"' ∧ c ≠ ',' ∧ c.toLower = c :=
    of_forall_ascii c (toNat_lt_of_isIdChar hid) (by decide)
  exact hall h

theorem namesFrom_bare (h : ∀ c ∈ cs, isBare c = true) (read : List Char) :
    namesFrom (.bare read) (cs ++ rest) = namesFrom (.bare (read ++ cs)) rest := by
  induction cs generalizing read with
  | nil => rw [List.nil_append, List.append_nil]
  | cons c cs ih =>
    obtain ⟨hblank, -, hcomma, -⟩ := of_isBare (h c List.mem_cons_self)
    have hstep : (Place.bare read).step c = some ([], .bare (read ++ [c])) := by
      simp [Place.step, hblank, hcomma]
    rw [List.cons_append, namesFrom_cons_of_step hstep,
      ih (fun d hd => h d (List.mem_cons_of_mem _ hd)), List.append_assoc, List.singleton_append]

theorem map_toLower_of_isBare (h : ∀ c ∈ cs, isBare c = true) : cs.map Char.toLower = cs := by
  rw [List.map_congr_left fun c hc => (of_isBare (h c hc)).2.2.2, List.map_id']

/-! ## Names between quotes -/

/-- The body of a quoted name is read to the quote that was written to end it. -/
theorem namesFrom_quoted (cs read : List Char) :
    namesFrom (.quoted read)
        (cs.flatMap (fun c => if c = '"' then ['"', '"'] else [c]) ++ '"' :: rest) =
      namesFrom (.quote (read ++ cs)) rest := by
  induction cs generalizing read with
  | nil => rw [List.append_nil]; exact namesFrom_cons_of_step rfl
  | cons c cs ih =>
    have ih := ih (read ++ [c])
    rw [List.append_assoc, List.singleton_append] at ih
    rw [List.flatMap_cons, List.append_assoc, ← ih]
    by_cases hc : c = '"'
    · subst hc
      rw [if_pos rfl]
      exact (namesFrom_cons_of_step rfl).trans (namesFrom_cons_of_step rfl)
    · rw [if_neg hc]
      exact namesFrom_cons_of_step (by simp [Place.step, hc])

/-! ## Paths -/

/-- A written name is read as it is, and then what ends it. -/
theorem namesFrom_nameChars (hne : cs ≠ []) (due : Bool) (rest : List Char) :
    ∃ p : Place, namesFrom (.before due) (nameChars cs ++ rest) = namesFrom p rest ∧
      p.ended = some [cs] ∧ p.step ',' = some ([cs], .before true) := by
  unfold nameChars
  split
  · next hbare =>
    obtain ⟨c, cs, rfl⟩ := List.exists_cons_of_ne_nil hne
    have hall := List.all_eq_true.mp hbare
    obtain ⟨hblank, hquote, hcomma, -⟩ := of_isBare (hall c List.mem_cons_self)
    have hstep : (Place.before due).step c = some ([], .bare [c]) := by
      simp [Place.step, hblank, hquote, hcomma]
    refine ⟨.bare (c :: cs), ?_, ?_, ?_⟩
    · rw [List.cons_append, namesFrom_cons_of_step hstep,
        namesFrom_bare fun d hd => hall d (List.mem_cons_of_mem _ hd)]
      rfl
    · rw [Place.ended, map_toLower_of_isBare hall]
    · have hread := map_toLower_of_isBare hall
      simp [Place.step, hread, show Startup.isBlank ',' = false from rfl]
  · refine ⟨.quote cs, ?_, rfl, rfl⟩
    rw [Sql.quotedChars, List.cons_append, List.cons_append, List.append_assoc,
      List.singleton_append, namesFrom_cons_of_step rfl]
    exact namesFrom_quoted cs []

end Names

/-- **A search path is read as the two names that it was written from**, whatever characters these
have, as long as they have any. -/
theorem names_searchPathChars {schema fallback : List Char} (hschema : schema ≠ [])
    (hfallback : fallback ≠ []) :
    names (searchPathChars schema fallback) = some [schema, fallback] := by
  obtain ⟨p, hread, -, hcomma⟩ := namesFrom_nameChars hschema false (',' :: nameChars fallback)
  obtain ⟨q, hlast, hended, -⟩ := namesFrom_nameChars hfallback true []
  rw [List.append_nil] at hlast
  rw [names, searchPathChars, hread, namesFrom, hcomma, Option.bind_some, hlast, namesFrom, hended]
  rfl

/-- **A search path says which names it was written from**: it is read as the two, whatever
characters they have, so no other two are written as the same path. -/
theorem searchPath_says_names :
    (∀ schema fallback : String, schema ≠ "" → fallback ≠ "" →
      names (searchPath schema fallback).toList = some [schema.toList, fallback.toList]) ∧
    ∀ schema fallback schema' fallback' : String, schema ≠ "" → fallback ≠ "" → schema' ≠ "" →
      fallback' ≠ "" → searchPath schema fallback = searchPath schema' fallback' →
        schema = schema' ∧ fallback = fallback' := by
  have hread : ∀ schema fallback : String, schema ≠ "" → fallback ≠ "" →
      names (searchPath schema fallback).toList = some [schema.toList, fallback.toList] := by
    intro schema fallback hschema hfallback
    rw [searchPath, String.toList_ofList]
    exact names_searchPathChars (mt String.toList_eq_nil_iff.mp hschema)
      (mt String.toList_eq_nil_iff.mp hfallback)
  refine ⟨hread, fun schema fallback schema' fallback' hschema hfallback hschema' hfallback' h => ?_⟩
  have hnames : some [schema.toList, fallback.toList] = some [schema'.toList, fallback'.toList] := by
    rw [← hread schema fallback hschema hfallback, h, hread schema' fallback' hschema' hfallback']
  simpa [String.toList_inj] using hnames

/-- A name of quotes, commas and blanks that looks like two, before one in capitals. -/
theorem searchPath_says_names_sample :
    names (searchPath "a\", b,c" "Öffentlich").toList =
        some ["a\", b,c".toList, "Öffentlich".toList] ∧
      searchPath "a\", b,c" "Öffentlich" = "\"a\"\", b,c\",\"Öffentlich\"" ∧
      searchPath "a\", b,c" "Öffentlich" ≠ searchPath "a" "b,c\",Öffentlich" := by
  refine ⟨searchPath_says_names.1 _ _ (by decide) (by decide), by decide, fun h => ?_⟩
  have hsame := searchPath_says_names.2 _ _ _ _ (by decide) (by decide) (by decide) (by decide) h
  exact absurd hsame.1 (by decide)

end Tenancy.Schema
