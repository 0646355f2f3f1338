import Tenancy.Net.Url.Parser
import Tenancy.Proofs.Net.Address
import Tenancy.Proofs.Text.Percent

/-!
# What is read as a locator

The parts of a locator are kept in a normal form: encoded where they have to be, without dots in the
path, an address in brackets in its shortest form, no user without a host. `Normal` says so, part by
part, for locators whose scheme is not special, and `normal_of_parse` that nothing else is ever
read. A locator in normal form is what `Proofs.Net.Url.Render` reads back from its text.
-/

set_option autoImplicit false

namespace Tenancy.Net

open Text Percent

/-! ## Normal forms of the parts -/

/-- A host of a scheme that is not special, as it is kept. -/
inductive IsHost : List Char → Prop where
  | bracketed {gs : List Nat} (h : GroupsOk gs) : IsHost ('[' :: renderIpv6 gs ++ [']'])
  | plain {cs : List Char} (h : ∀ c ∈ cs, Kept Url.shows c ∧ c ∉ Url.forbiddenInHost) : IsHost cs

/-- An authority as it is kept. -/
structure Authority.Normal (a : Authority) : Prop where
  username : ∀ c ∈ a.username, Kept Url.inUserinfo c
  password : ∀ p, a.password = some p → p ≠ [] ∧ ∀ c ∈ p, Kept Url.inUserinfo c
  host : IsHost a.host
  port : ∀ n, a.port = some n → n ≤ 65535
  hostless : a.host = [] → a.username = [] ∧ a.password = none ∧ a.port = none

namespace Url

/-- A scheme as it is kept, none of the special ones. -/
structure IsScheme (cs : List Char) : Prop where
  head : ∃ c, cs.head? = some c ∧ c.isAlpha = true
  chars : ∀ c ∈ cs, isSchemeChar c = true
  lower : cs.map Char.toLower = cs
  ordinary : isSpecial cs = false

/-- A segment of a path with its dots resolved. -/
structure IsSegment (cs : List Char) : Prop where
  kept : ∀ c ∈ cs, Kept inPath c
  one : '/' ∉ cs
  dot : isDot cs = false
  doubleDot : isDoubleDot cs = false

/-- A path that begins with a slash. -/
def IsRooted (cs : List Char) : Prop :=
  ∃ segments : List (List Char), segments ≠ [] ∧ (∀ s ∈ segments, IsSegment s) ∧
    cs = '/' :: ['/'].intercalate segments

/-- A path that is no path of segments. -/
structure IsOpaque (cs : List Char) : Prop where
  head : cs.head? ≠ some '/'
  kept : ∀ c ∈ cs, Kept shows c
  query : '?' ∉ cs
  fragment : '#' ∉ cs

/-- A path as it is kept: behind an authority it is rooted or empty. -/
def IsPath (authority : Option Authority) (cs : List Char) : Prop :=
  match authority with
  | some _ => cs = [] ∨ IsRooted cs
  | none => IsOpaque cs ∨ IsRooted cs

/-- A locator as it is kept, of a scheme that is not special. -/
structure Normal (u : Url) : Prop where
  scheme : IsScheme u.scheme
  authority : ∀ a, u.authority = some a → a.Normal
  path : IsPath u.authority u.path
  query : ∀ q, u.query = some q → ∀ c ∈ q, Kept (inQuery false) c
  fragment : ∀ f, u.fragment = some f → ∀ c ∈ f, Kept inFragment c

/-! ## What stands for itself -/

theorem toNat_lt_of_shows {b : UInt8} (h : shows b = true) : b.toNat < 0x80 := by
  simp only [shows, Bool.and_eq_true, decide_eq_true_eq, UInt8.le_iff_toNat_le] at h
  have := h.2
  simp at this
  omega

theorem shows_of_showsBut {marks : List Char} {b : UInt8} (h : showsBut marks b = true) :
    shows b = true := (Bool.and_eq_true_iff.mp h).1

theorem stable_showsBut {marks : List Char}
    (h : ∀ c ∈ tripleChars, c ∉ marks) : Stable (showsBut marks) where
  ascii b hb := toNat_lt_of_shows (shows_of_showsBut hb)
  triples c hc := by
    have hascii := toNat_lt_of_mem_tripleChars hc
    have hshows : ∀ c ∈ tripleChars, shows (UInt8.ofNat c.toNat) = true :=
      forall_mem_of_all (by decide)
    simp [showsBut, hshows c hc, Utf8.toNat_ofNat (show c.toNat < 256 by omega), h c hc]

theorem stable_shows : Stable shows where
  ascii _ h := toNat_lt_of_shows h
  triples := forall_mem_of_all (by decide)

theorem stable_inFragment : Stable inFragment := stable_showsBut (forall_mem_of_all (by decide))

theorem stable_inPath : Stable inPath := stable_showsBut (forall_mem_of_all (by decide))

theorem stable_inUserinfo : Stable inUserinfo := stable_showsBut (forall_mem_of_all (by decide))

theorem stable_inQuery : Stable (inQuery false) where
  ascii b h := by
    simp only [inQuery, Bool.and_eq_true] at h
    exact toNat_lt_of_shows (shows_of_showsBut h.1)
  triples := forall_mem_of_all (by decide)

/-! ## Segments -/

theorem isSegment_nil : IsSegment [] := ⟨by simp, by simp, rfl, rfl⟩

theorem mem_leave {rooted : Bool} {done : List (List Char)} {s : List Char}
    (h : s ∈ leave rooted done) : s ∈ done := by
  unfold leave at h
  split at h
  · split at h
    · exact h
    · exact List.mem_cons_of_mem _ h
  · exact h

/-- Resolving dots leaves segments, and at least one. -/
theorem resolveDots_spec {rooted : Bool} {done segments : List (List Char)}
    (hne : segments ≠ []) (hdone : ∀ s ∈ done, IsSegment s)
    (hsegments : ∀ s ∈ segments, (∀ c ∈ s, Kept inPath c) ∧ '/' ∉ s) :
    resolveDots rooted done segments ≠ [] ∧ ∀ s ∈ resolveDots rooted done segments, IsSegment s := by
  -- what is done is general: a double dot takes from it, and any other segment is put on it
  induction segments generalizing done with
  | nil => exact absurd rfl hne
  | cons s rest ih =>
    have hleave : ∀ t ∈ leave rooted done, IsSegment t := fun t ht => hdone t (mem_leave ht)
    have hs : isDoubleDot s = false → isDot s = false → ∀ t ∈ s :: done, IsSegment t := by
      intro hdouble hdot t ht
      rcases List.mem_cons.mp ht with rfl | ht
      · exact ⟨(hsegments t List.mem_cons_self).1, (hsegments t List.mem_cons_self).2, hdot, hdouble⟩
      · exact hdone t ht
    have hnil : ∀ l : List (List Char), (∀ t ∈ l, IsSegment t) →
        ([] :: l).reverse ≠ [] ∧ ∀ t ∈ ([] :: l).reverse, IsSegment t := by
      intro l hl
      refine ⟨by simp, fun t ht => ?_⟩
      rcases List.mem_cons.mp (List.mem_reverse.mp ht) with rfl | ht
      · exact isSegment_nil
      · exact hl t ht
    cases rest with
    | nil =>
      unfold resolveDots
      split
      · exact hnil _ hleave
      · split
        · exact hnil _ hdone
        · next hdouble hdot =>
          exact ⟨by simp, fun t ht =>
            hs (by simpa using hdouble) (by simpa using hdot) t (List.mem_reverse.mp ht)⟩
    | cons r rest =>
      have hrest : ∀ t ∈ r :: rest, (∀ c ∈ t, Kept inPath c) ∧ '/' ∉ t :=
        fun t ht => hsegments t (List.mem_cons_of_mem _ ht)
      unfold resolveDots
      split
      · exact ih (List.cons_ne_nil _ _) hleave hrest
      · split
        · exact ih (List.cons_ne_nil _ _) hdone hrest
        · next hdouble hdot =>
          exact ih (List.cons_ne_nil _ _) (hs (by simpa using hdouble) (by simpa using hdot)) hrest

theorem isRooted_rootedPath (cs : List Char) : IsRooted (rootedPath false cs) := by
  have hsegments : ∀ s ∈ segmentsOf false cs, (∀ c ∈ s, Kept inPath c) ∧ '/' ∉ s := by
    intro s hs
    refine ⟨fun c hc => ?_, not_mem_of_mem_pieces hs⟩
    refine kept_of_mem_encode stable_inPath (?_ : c ∈ Percent.encode inPath cs)
    rw [← intercalate_pieces '/' (Percent.encode inPath cs)]
    exact mem_intercalate.mpr (.inl ⟨s, hs, hc⟩)
  have hnone : ∀ s ∈ ([] : List (List Char)), IsSegment s := by simp
  obtain ⟨hne, hall⟩ := resolveDots_spec (pieces_ne_nil _ _) hnone hsegments
  exact ⟨_, hne, hall, rfl⟩

/-! ## Hosts and authorities -/

theorem isHost_of_bracketedHost {cs host : List Char} (h : bracketedHost cs = .ok host) :
    IsHost host := by
  unfold bracketedHost at h
  split at h
  · split at h
    · next hgroups =>
      cases h
      exact .bracketed (groupsOk_of_ipv6? hgroups)
    · cases h
  · cases h

theorem isHost_of_opaqueHost {cs host : List Char} (h : opaqueHost cs = .ok host) :
    IsHost host := by
  unfold opaqueHost at h
  split at h
  · exact isHost_of_bracketedHost h
  · split at h
    · cases h
    · next hforbidden =>
      cases h
      -- a forbidden mark would have been there before, for triples have none
      refine .plain fun c hc => ⟨kept_of_mem_encode stable_shows hc, fun hmem => ?_⟩
      rcases mem_tripleChars_or_mem_of_mem_encode (fun _ => toNat_lt_of_shows) hc with htriple | hcs
      · have hallowed : ∀ c ∈ tripleChars, c ∉ forbiddenInHost := forall_mem_of_all (by decide)
        exact absurd hmem (hallowed c htriple)
      · exact hforbidden (List.any_eq_true.mpr ⟨c, hcs, List.contains_iff_mem.mpr hmem⟩)

/-- A user name and a password are kept encoded, and an empty password is none. -/
theorem readUserinfo_spec {special : Bool} {cs username rest : List Char}
    {password : Option (List Char)}
    (h : readUserinfo special cs = .ok (username, password, rest)) :
    (∀ c ∈ username, Kept inUserinfo c) ∧
      ∀ p, password = some p → p ≠ [] ∧ ∀ c ∈ p, Kept inUserinfo c := by
  have hkept : ∀ (t : List Char), ∀ c ∈ Percent.encode inUserinfo t, Kept inUserinfo c :=
    fun t c => kept_of_mem_encode stable_inUserinfo
  unfold readUserinfo at h
  split at h
  · cases h
    simp
  · dsimp only at h
    split at h
    · split at h
      · split at h
        · cases h
        · cases h
          simp
      · cases h
        simp
    · split at h
      · cases h
        exact ⟨hkept _, by simp⟩
      · cases h
        exact ⟨hkept _, by simp⟩
      · next name password hne _ =>
        cases h
        refine ⟨hkept _, fun p hp => ?_⟩
        cases hp
        exact ⟨encode_ne_nil _ hne, hkept _⟩

theorem readPort_le {own : Option Nat} {cs rest : List Char} {n : Nat}
    (h : readPort own cs = .ok (some n, rest)) : n ≤ 65535 := by
  have hvalue : ∀ {digits : List Char} {k : Nat}, ¬65535 < k →
      (if digits = [] ∨ some k = own then none else some k) = some n → n ≤ 65535 := by
    intro digits k hk hn
    split at hn
    · cases hn
    · cases hn
      omega
  unfold readPort at h
  dsimp only at h
  split at h
  · cases h
  · next hle =>
    split at h
    · simp only [Except.ok.injEq, Prod.mk.injEq] at h
      exact hvalue hle h.1
    · split at h
      · simp only [Except.ok.injEq, Prod.mk.injEq] at h
        exact hvalue hle h.1
      · cases h

/-- **What is read as an authority is in normal form.** -/
theorem normal_of_readAuthority {scheme cs rest : List Char} {a : Authority}
    (hs : isSpecial scheme = false) (h : readAuthority scheme cs = .ok (a, rest)) : a.Normal := by
  simp only [readAuthority, hs, bind, Except.bind, pure, Except.pure] at h
  cases huser : readUserinfo false cs with
  | error fault => simp [huser] at h
  | ok user =>
    obtain ⟨username, password, behind⟩ := user
    obtain ⟨husername, hpassword⟩ := readUserinfo_spec huser
    simp only [huser, Bool.false_eq_true, false_and, if_false] at h
    cases hhost : opaqueHost (behind.take (hostLength false false behind)) with
    | error fault => simp [hhost] at h
    | ok host =>
      have hIsHost := isHost_of_opaqueHost hhost
      simp only [hhost] at h
      -- with a port, or without one
      split at h
      · split at h
        · cases h
        · next hne =>
          split at h
          · cases h
          · next port hport =>
            cases h
            refine ⟨husername, hpassword, hIsHost, fun n hn => ?_, fun he => absurd he hne⟩
            obtain ⟨number, behindPort⟩ := port
            dsimp only at hn
            exact readPort_le (hn ▸ hport)
      · split at h
        · cases h
        · next hhostless =>
          cases h
          refine ⟨husername, hpassword, hIsHost, by simp, fun (he : host = []) => ?_⟩
          simp only [he, true_and, not_or, Classical.not_not, ne_eq] at hhostless
          exact ⟨hhostless.1, hhostless.2, rfl⟩

/-! ## The whole -/

theorem not_mem_of_kept {keep : UInt8 → Bool} {cs : List Char} (c : Char)
    (hc : keep (UInt8.ofNat c.toNat) = false) (h : ∀ d ∈ cs, Kept keep d) : c ∉ cs := fun hmem =>
  Bool.noConfusion (hc.symm.trans (h c hmem).2)

theorem cutTail_front (cs : List Char) :
    (cutTail cs).1 =
      ((cutFirst '?' (((cutFirst '#' cs).map Prod.fst).getD cs)).map Prod.fst).getD
        (((cutFirst '#' cs).map Prod.fst).getD cs) := by
  unfold cutTail
  cases cutFirst '#' cs with
  | none => cases hquery : cutFirst '?' cs <;> simp [hquery]
  | some cut => cases hquery : cutFirst '?' cut.1 <;> simp [hquery]

/-- What stands in front of a query and a fragment is a beginning of the text, without the marks of
either. -/
theorem cutTail_front_spec (cs : List Char) :
    '?' ∉ (cutTail cs).1 ∧ '#' ∉ (cutTail cs).1 ∧ (cutTail cs).1 <+: cs := by
  rw [cutTail_front]
  obtain ⟨hfragment, hfront⟩ := cutFirst_front_spec '#' cs
  obtain ⟨hquery, hpath⟩ :=
    cutFirst_front_spec '?' (((cutFirst '#' cs).map Prod.fst).getD cs)
  exact ⟨hquery, fun hmem => hfragment (hpath.subset hmem), hpath.trans hfront⟩

/-- Reading a tail puts a path, a query and a fragment in their normal forms. -/
theorem normal_assemble {scheme : List Char} {authority : Option Authority}
    {path : List Char → List Char} {cs : List Char} (hscheme : IsScheme scheme)
    (hauthority : ∀ a, authority = some a → a.Normal)
    (hpath : IsPath authority (path (cutTail cs).1)) :
    (assemble scheme authority path cs).Normal where
  scheme := hscheme
  authority := hauthority
  path := hpath
  query q hq c hc := by
    obtain ⟨raw, -, rfl⟩ := Option.map_eq_some_iff.mp hq
    rw [hscheme.ordinary] at hc
    exact kept_of_mem_encode stable_inQuery hc
  fragment f hf c hc := by
    obtain ⟨raw, -, rfl⟩ := Option.map_eq_some_iff.mp hf
    exact kept_of_mem_encode stable_inFragment hc

theorem isPath_pathAfterAuthority (a : Authority) (cs : List Char) :
    IsPath (some a) (pathAfterAuthority false cs) := by
  unfold pathAfterAuthority
  split
  · exact .inl rfl
  · split <;> exact .inr (isRooted_rootedPath _)

theorem isOpaque_encode {cs : List Char} (hhead : cs.head? ≠ some '/') (hquery : '?' ∉ cs)
    (hfragment : '#' ∉ cs) : IsOpaque (Percent.encode shows cs) where
  head := head?_encode_ne (fun _ => toNat_lt_of_shows) (by decide) hhead
  kept c hc := kept_of_mem_encode stable_shows hc
  query hmem := by
    rcases mem_tripleChars_or_mem_of_mem_encode (fun _ => toNat_lt_of_shows) hmem with h | h
    · exact absurd h (by decide)
    · exact hquery h
  fragment hmem := by
    rcases mem_tripleChars_or_mem_of_mem_encode (fun _ => toNat_lt_of_shows) hmem with h | h
    · exact absurd h (by decide)
    · exact hfragment h

theorem toNat_lt_of_isSchemeChar {c : Char} (h : isSchemeChar c = true) : c.toNat < 0x80 := by
  have hupper : c.isUpper = true → c.toNat ≤ 0x5A := fun h => (of_decide_eq_true h).2
  have hlower : c.isLower = true → c.toNat ≤ 0x7A := fun h =>
    of_decide_eq_true (Bool.and_eq_true_iff.mp h).2
  have hdigit : c.isDigit = true → c.toNat ≤ 0x39 := fun h =>
    of_decide_eq_true (Bool.and_eq_true_iff.mp h).2
  simp only [isSchemeChar, Char.isAlphanum, Bool.or_eq_true, beq_iff_eq] at h
  rcases h with (((h | h) | rfl) | rfl) | rfl
  · rcases Bool.or_eq_true_iff.mp h with h | h
    · exact Nat.lt_of_le_of_lt (hupper h) (by decide)
    · exact Nat.lt_of_le_of_lt (hlower h) (by decide)
  · exact Nat.lt_of_le_of_lt (hdigit h) (by decide)
  · decide
  · decide
  · decide

/-- Capitals go with their small letters. -/
theorem isSchemeChar_toLower {c : Char} (h : isSchemeChar c = true) :
    isSchemeChar c.toLower = true ∧ c.toLower.toLower = c.toLower ∧
      c.toLower.isAlpha = c.isAlpha := by
  have hall : isSchemeChar c = true → isSchemeChar c.toLower = true ∧
      c.toLower.toLower = c.toLower ∧ c.toLower.isAlpha = c.isAlpha :=
    of_forall_ascii c (toNat_lt_of_isSchemeChar h) (by decide)
  exact hall h

theorem isScheme_of_cutScheme {cs scheme rest : List Char}
    (h : cutScheme cs = some (scheme, rest)) (hs : isSpecial scheme = false) :
    IsScheme scheme := by
  unfold cutScheme at h
  split at h
  · split at h
    · next c raw _ =>
      split at h
      · next hshape =>
        cases h
        obtain ⟨halpha, hall⟩ := Bool.and_eq_true_iff.mp hshape
        have hchars := fun d hd => isSchemeChar_toLower (List.all_eq_true.mp hall d hd)
        refine ⟨⟨c.toLower, rfl, ?_⟩, ?_, ?_, hs⟩
        · rw [(hchars c List.mem_cons_self).2.2]
          exact halpha
        · intro d hd
          obtain ⟨e, he, rfl⟩ := List.mem_map.mp hd
          exact (hchars e he).1
        · rw [List.map_map]
          exact List.map_congr_left fun d hd => (hchars d hd).2.1
      · cases h
    · cases h
  · cases h

theorem scheme_of_fileHierarchy {scheme cs : List Char} {u : Url}
    (h : fileHierarchy scheme cs = .ok u) : u.scheme = scheme := by
  unfold fileHierarchy at h
  simp only [bind, Except.bind, pure, Except.pure] at h
  repeat' split at h
  all_goals first | cases h; rfl | cases h

theorem scheme_of_hierarchy {scheme cs : List Char} {u : Url} (h : hierarchy scheme cs = .ok u) :
    u.scheme = scheme := by
  simp only [hierarchy, bind, Except.bind, pure, Except.pure] at h
  split at h
  · cases h
  · cases h
    rfl

theorem scheme_of_ofParts {scheme cs : List Char} {u : Url} (h : ofParts scheme cs = .ok u) :
    u.scheme = scheme := by
  unfold ofParts at h
  split at h
  · exact scheme_of_fileHierarchy h
  · split at h
    · exact scheme_of_hierarchy h
    · split at h
      · exact scheme_of_hierarchy h
      · cases h
        rfl
      · cases h
        rfl

theorem normal_of_hierarchy {scheme cs : List Char} {u : Url} (hscheme : IsScheme scheme)
    (h : hierarchy scheme cs = .ok u) : u.Normal := by
  simp only [hierarchy, bind, Except.bind, pure, Except.pure] at h
  split at h
  · cases h
  · next read hread =>
    cases h
    rw [hscheme.ordinary]
    refine normal_assemble hscheme (fun a ha => ?_) (isPath_pathAfterAuthority _ _)
    cases ha
    exact normal_of_readAuthority hscheme.ordinary hread

theorem ne_file_of_isScheme {scheme : List Char} (h : IsScheme scheme) :
    scheme ≠ "file".toList := fun e =>
  Bool.noConfusion (h.ordinary.symm.trans (e ▸ by decide : isSpecial scheme = true))

/-- **What is read as a locator is in normal form**, unless its scheme is special. -/
theorem normal_of_parse {s : String} {u : Url} (h : parse s = .ok u)
    (hs : isSpecial u.scheme = false) : u.Normal := by
  unfold parse at h
  split at h
  · cases h
  · next scheme rest hcut =>
    have hscheme : IsScheme scheme := isScheme_of_cutScheme hcut (scheme_of_ofParts h ▸ hs)
    unfold ofParts at h
    rw [if_neg (ne_file_of_isScheme hscheme), if_neg (by simp [hscheme.ordinary])] at h
    split at h
    · exact normal_of_hierarchy hscheme h
    · cases h
      exact normal_assemble hscheme (by simp) (.inr (isRooted_rootedPath _))
    · next hne =>
      cases h
      obtain ⟨hquery, hfragment, hprefix⟩ := cutTail_front_spec rest
      refine normal_assemble hscheme (by simp) (.inl (isOpaque_encode ?_ hquery hfragment))
      -- a slash in front would have been taken by the case before
      intro hhead
      obtain ⟨behind, hbehind⟩ := List.head?_eq_some_iff.mp hhead
      obtain ⟨tail, htail⟩ := hprefix
      exact hne (behind ++ tail) (by rw [← htail, hbehind, List.cons_append])

end Url

end Tenancy.Net
