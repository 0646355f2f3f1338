import Tenancy.Proofs.Net.Url.Normal
import Tenancy.Proofs.Text.Decimal

/-!
# Reading written locators

A locator in normal form that has a query is read back from its text (`parse_render`): every part is
cut off where it was put on, because it holds none of the marks that end it, and is left as it is,
because it is encoded already. Locators that were read and then given another query are of that kind
(`Normal.withQuery`), so a locator can be changed in its query and handed on as text.

Without a query the statement would be wrong: a path that is not rooted may end in spaces, and only
a query or a fragment behind it keeps them.
-/

set_option autoImplicit false

namespace Tenancy.Net

open Text Percent

namespace Url

/-! ## The authority -/

/-- What can stand behind an authority. -/
def BehindAuthority (tail : List Char) : Prop :=
  ∀ c cs, tail = c :: cs → endsAuthority false c = true

theorem BehindAuthority.head {c : Char} {cs : List Char} (h : BehindAuthority (c :: cs)) :
    c = '/' ∨ c = '?' ∨ c = '#' := by
  simpa [endsAuthority, or_assoc] using h c cs rfl

theorem opaqueHost_of_isHost {host : List Char} (h : IsHost host) : opaqueHost host = .ok host := by
  cases h with
  | @bracketed gs h =>
    have hlast : ('[' :: renderIpv6 gs ++ [']']).getLast? = some ']' := List.getLast?_concat
    have hinner : (('[' :: renderIpv6 gs ++ [']']).drop 1).dropLast = renderIpv6 gs :=
      List.dropLast_concat
    have hopen : ('[' :: renderIpv6 gs ++ [']']).head? = some '[' := rfl
    rw [opaqueHost, if_pos hopen, bracketedHost, hlast]
    simp only [hinner, ipv6?_renderIpv6 h]
  | plain h =>
    have hopen : host.head? ≠ some '[' := fun e =>
      (h '[' (List.mem_of_head? e)).2 (by decide)
    have hforbidden : ¬host.any forbiddenInHost.contains = true := by
      rw [List.any_eq_true]
      rintro ⟨c, hc, hmem⟩
      exact (h c hc).2 (List.contains_iff_mem.mp hmem)
    -- a host that is no address is encoded already
    rw [opaqueHost, if_neg hopen, if_neg hforbidden, encode_of_kept fun c hc => (h c hc).1]

/-- A host holds nothing that ends it or a user in front of it. -/
theorem not_ends_of_isHost {host : List Char} (h : IsHost host) {c : Char} (hc : c ∈ host) :
    endsAuthority false c = false ∧ c ≠ '@' := by
  have hbracketed : ∀ c ∈ bracketedChars, endsAuthority false c = false ∧ c ≠ '@' :=
    forall_mem_of_all (by decide)
  cases h with
  | bracketed h => exact hbracketed c (mem_bracketedChars hc)
  | plain h =>
    have hforbidden := (h c hc).2
    simp only [forbiddenInHost, List.mem_cons, List.not_mem_nil, or_false, not_or] at hforbidden
    simp [endsAuthority, hforbidden]

theorem hostLength_append {inBrackets : Bool} {p : List Char}
    (h : ∀ c ∈ p, endsAuthority false c = false ∧ c ≠ '[' ∧ c ≠ ']' ∧
      (inBrackets = false → c ≠ ':')) (tail : List Char) :
    hostLength false inBrackets (p ++ tail) = p.length + hostLength false inBrackets tail := by
  induction p with
  | nil => simp
  | cons c p ih =>
    obtain ⟨hends, hopen, hclose, hcolon⟩ := h c List.mem_cons_self
    have ih := ih fun d hd => h d (List.mem_cons_of_mem _ hd)
    have hgo : (endsAuthority false c || (c == ':' && !inBrackets)) = false := by
      cases inBrackets <;> simp_all
    simp [hostLength, hgo, hopen, hclose, ih]
    omega

/-- The host ends where the port, or what is behind the authority, begins. -/
theorem hostLength_of_isHost {host tail : List Char} (h : IsHost host)
    (htail : ∀ c cs, tail = c :: cs → endsAuthority false c = true ∨ c = ':') :
    hostLength false false (host ++ tail) = host.length := by
  have hstop : hostLength false false tail = 0 := by
    cases tail with
    | nil => rfl
    | cons c cs =>
      rcases htail c cs rfl with hc | rfl
      · simp [hostLength, hc]
      · rfl
  cases h with
  | @bracketed gs h =>
    have hwritten : ∀ c ∈ ':' :: writtenDigits, endsAuthority false c = false ∧ c ≠ '[' ∧ c ≠ ']' ∧
        (true = false → c ≠ ':') := forall_mem_of_all (by decide)
    have hinner := fun c (hc : c ∈ renderIpv6 gs) => hwritten c (mem_renderIpv6 hc)
    have hclose : hostLength false true (']' :: tail) = hostLength false false tail + 1 := rfl
    -- colons count for nothing between the brackets, and the host ends behind the closing one
    calc hostLength false false ('[' :: renderIpv6 gs ++ [']'] ++ tail)
        = hostLength false true (renderIpv6 gs ++ (']' :: tail)) + 1 := by simp [hostLength, endsAuthority]
      _ = ('[' :: renderIpv6 gs ++ [']']).length := by
        rw [hostLength_append hinner, hclose, hstop]
        simp
  | plain h =>
    rw [hostLength_append fun c hc => ?_, hstop, Nat.add_zero]
    have hforbidden := (h c hc).2
    simp only [forbiddenInHost, List.mem_cons, List.not_mem_nil, or_false, not_or] at hforbidden
    simp [endsAuthority, hforbidden]

def portText : Option Nat → List Char
  | some n => ':' :: Nat.toDigits 10 n
  | none => []

def userText (a : Authority) : List Char :=
  a.username ++ match a.password with
    | some p => ':' :: p
    | none => []

theorem renderAuthority_eq (a : Authority) :
    renderAuthority a =
      userText a ++ (if userText a = [] then [] else ['@']) ++ a.host ++ portText a.port := rfl

theorem mem_renderAuthority {a : Authority} {c : Char} (hc : c ∈ renderAuthority a) :
    c ∈ userText a ∨ c = '@' ∨ c ∈ a.host ++ portText a.port := by
  rw [renderAuthority_eq, List.append_assoc, List.append_assoc, List.mem_append,
    List.mem_append] at hc
  rcases hc with hc | hc | hc
  · exact .inl hc
  · split at hc
    · cases hc
    · exact .inr (.inl (List.mem_singleton.mp hc))
  · exact .inr (.inr hc)

theorem readPort_toDigits {n : Nat} {tail : List Char} (hn : n ≤ 65535)
    (htail : BehindAuthority tail) : readPort none (Nat.toDigits 10 n ++ tail) = .ok (some n, tail) := by
  have hdigits : (Nat.toDigits 10 n ++ tail).takeWhile Char.isDigit = Nat.toDigits 10 n := by
    rw [List.takeWhile_append_of_pos fun c hc =>
      Nat.isDigit_of_mem_toDigits (by decide) (by decide) hc]
    cases tail with
    | nil => simp
    | cons c cs => rcases htail.head with rfl | rfl | rfl <;> simp [Char.isDigit]
  have hle : ¬65535 < n := by omega
  simp only [readPort, hdigits, Decimal.foldl_toDigits, List.drop_left, if_neg hle, Nat.toDigits_ne_nil]
  cases tail with
  | nil => simp
  | cons c cs => rcases htail.head with rfl | rfl | rfl <;> simp [endsAuthority]

theorem not_ends_of_kept_inUserinfo {c : Char} (h : Kept inUserinfo c) :
    endsAuthority false c = false ∧ c ≠ ':' ∧ c ≠ '@' := by
  have hall : Kept inUserinfo c → endsAuthority false c = false ∧ c ≠ ':' ∧ c ≠ '@' :=
    of_forall_ascii c h.1 (by decide)
  exact hall h

theorem not_ends_of_mem_portText {port : Option Nat} {c : Char} (h : c ∈ portText port) :
    endsAuthority false c = false ∧ c ≠ '@' := by
  cases port with
  | none => cases h
  | some n =>
    rcases List.mem_cons.mp h with rfl | h
    · decide
    · have hdigit := Nat.isDigit_of_mem_toDigits (by decide) (by decide) h
      refine ⟨?_, fun e => absurd (e ▸ hdigit) (by decide)⟩
      simp only [endsAuthority, Bool.false_and, Bool.or_false, Bool.or_eq_false_iff,
        beq_eq_false_iff_ne]
      refine ⟨⟨?_, ?_⟩, ?_⟩ <;> exact fun e => absurd (e ▸ hdigit) (by decide)

theorem kept_of_mem_userText {a : Authority} (h : a.Normal) {c : Char} (hc : c ∈ userText a) :
    Kept inUserinfo c ∨ c = ':' := by
  rcases List.mem_append.mp hc with hc | hc
  · exact .inl (h.username c hc)
  · split at hc
    · next p hp =>
      rcases List.mem_cons.mp hc with rfl | hc
      · exact .inr rfl
      · exact .inl ((h.password p hp).2 c hc)
    · cases hc

theorem not_ends_of_mem_userText {a : Authority} (h : a.Normal) {c : Char} (hc : c ∈ userText a) :
    endsAuthority false c = false ∧ c ≠ '@' := by
  rcases kept_of_mem_userText h hc with hc | rfl
  · exact ⟨(not_ends_of_kept_inUserinfo hc).1, (not_ends_of_kept_inUserinfo hc).2.2⟩
  · decide

theorem not_ends_of_mem_hostText {a : Authority} (h : a.Normal) {c : Char}
    (hc : c ∈ a.host ++ portText a.port) : endsAuthority false c = false ∧ c ≠ '@' := by
  rcases List.mem_append.mp hc with hc | hc
  · exact not_ends_of_isHost h.host hc
  · exact not_ends_of_mem_portText hc

/-- An authority ends where what is behind it begins. -/
theorem takeWhile_renderAuthority {a : Authority} (h : a.Normal) {tail : List Char}
    (htail : BehindAuthority tail) :
    (renderAuthority a ++ tail).takeWhile (fun c => !endsAuthority false c) =
      renderAuthority a := by
  have hinside : ∀ c ∈ renderAuthority a, (!endsAuthority false c) = true := by
    intro c hc
    rcases mem_renderAuthority hc with hc | rfl | hc
    · rw [(not_ends_of_mem_userText h hc).1]
      rfl
    · rfl
    · rw [(not_ends_of_mem_hostText h hc).1]
      rfl
  rw [List.takeWhile_append_of_pos hinside]
  cases tail with
  | nil => simp
  | cons c cs => simp [htail c cs rfl]

/-- What is left for the user is cut at the at sign, which is the last one. -/
theorem readUserinfo_render {a : Authority} (h : a.Normal) {tail : List Char}
    (htail : BehindAuthority tail) :
    readUserinfo false (renderAuthority a ++ tail) =
      .ok (a.username, a.password, a.host ++ portText a.port ++ tail) := by
  have hat : '@' ∉ a.host ++ portText a.port := fun hmem => (not_ends_of_mem_hostText h hmem).2 rfl
  unfold readUserinfo
  rw [takeWhile_renderAuthority h htail]
  by_cases hnone : userText a = []
  · -- without a user there is no at sign at all
    obtain ⟨husername, hpassword⟩ := List.append_eq_nil_iff.mp hnone
    have hpassword : a.password = none := by
      cases hp : a.password with
      | none => rfl
      | some p => simp [hp] at hpassword
    have hrender : renderAuthority a = a.host ++ portText a.port := by
      rw [renderAuthority_eq, hnone]
      simp
    rw [hrender, cutLast_eq_none_iff.mpr hat, husername, hpassword]
  · have hrender : renderAuthority a = userText a ++ '@' :: (a.host ++ portText a.port) := by
      rw [renderAuthority_eq, if_neg hnone]
      simp
    have hdrop : (userText a ++ '@' :: (a.host ++ portText a.port) ++ tail).drop
        ((userText a).length + 1) = a.host ++ portText a.port ++ tail := by
      rw [List.append_assoc, List.cons_append, ← List.drop_drop, List.drop_left]
      rfl
    have hcolon : ':' ∉ a.username := fun hmem =>
      (not_ends_of_kept_inUserinfo (h.username _ hmem)).2.1 rfl
    rw [hrender, cutLast_append_cons _ hat]
    simp only [hnone, if_false, hdrop]
    cases hp : a.password with
    | none =>
      have huser : userText a = a.username := by simp [userText, hp]
      rw [huser, cutFirst_eq_none_iff.mpr hcolon]
      simp only [encode_of_kept h.username]
    | some p =>
      obtain ⟨hne, hkept⟩ := h.password p hp
      have huser : userText a = a.username ++ ':' :: p := by simp [userText, hp]
      obtain ⟨c, cs, rfl⟩ := List.exists_cons_of_ne_nil hne
      rw [huser, cutFirst_append_cons hcolon]
      simp only [encode_of_kept h.username, encode_of_kept hkept]

theorem defaultPort_of_ordinary {scheme : List Char} (h : isSpecial scheme = false) :
    defaultPort scheme = none := by
  have hnone : (specialSchemes.find? fun s => s.1.toList == scheme) = none :=
    List.find?_eq_none.mpr fun s hs hscheme =>
      Bool.noConfusion (h.symm.trans (List.any_eq_true.mpr ⟨s, hs, hscheme⟩))
  rw [defaultPort, hnone]
  rfl

/-- **A written authority is read back**, and what is behind it is left. -/
theorem readAuthority_render {scheme : List Char} (hs : IsScheme scheme) {a : Authority}
    (h : a.Normal) {tail : List Char} (htail : BehindAuthority tail) :
    readAuthority scheme (renderAuthority a ++ tail) = .ok (a, tail) := by
  -- the host ends at the colon of the port, or where the authority ends
  have hlength : hostLength false false (a.host ++ portText a.port ++ tail) = a.host.length := by
    rw [List.append_assoc]
    refine hostLength_of_isHost h.host fun c cs hc => ?_
    cases hp : a.port with
    | none => exact .inl (htail c cs (by simpa [hp, portText] using hc))
    | some n =>
      rw [hp] at hc
      exact .inr (List.cons.inj hc).1.symm
  have hhost := opaqueHost_of_isHost h.host
  simp only [readAuthority, hs.ordinary, bind, Except.bind, pure, Except.pure,
    readUserinfo_render h htail, hlength, defaultPort_of_ordinary hs.ordinary]
  rw [List.append_assoc, List.take_left, List.drop_left]
  simp only [Bool.false_eq_true, false_and, if_false, hhost]
  cases a with
  | mk username password host port =>
  cases port with
  | some n =>
    have hne : host ≠ [] := fun e => absurd (h.hostless e).2.2 (by simp)
    simp [portText, hne, readPort_toDigits (h.port n rfl) htail]
  | none =>
    have hnone : ¬(host = [] ∧ (username ≠ [] ∨ password ≠ none)) := by
      rintro ⟨he, huser⟩
      obtain ⟨husername, hpassword, -⟩ := h.hostless he
      rcases huser with huser | huser
      · exact huser husername
      · exact huser hpassword
    simp only [portText, List.nil_append]
    split
    -- nothing behind an authority begins with a colon
    · next cs =>
      have := htail.head
      simp at this
    · rw [if_neg hnone]

/-! ## The path -/

theorem resolveDots_of_isSegment {rooted : Bool} (done : List (List Char))
    {segments : List (List Char)} (hne : segments ≠ []) (h : ∀ s ∈ segments, IsSegment s) :
    resolveDots rooted done segments = done.reverse ++ segments := by
  induction segments generalizing done with
  | nil => exact absurd rfl hne
  | cons s rest ih =>
    have hs := h s List.mem_cons_self
    cases rest with
    | nil => simp [resolveDots, hs.dot, hs.doubleDot]
    | cons r rest =>
      have ih := ih (s :: done) (List.cons_ne_nil _ _) fun t ht => h t (List.mem_cons_of_mem _ ht)
      simp [resolveDots, hs.dot, hs.doubleDot, ih]

theorem kept_of_mem_intercalate {segments : List (List Char)} (h : ∀ s ∈ segments, IsSegment s) :
    ∀ c ∈ ['/'].intercalate segments, Kept inPath c := by
  intro c hc
  rcases mem_intercalate.mp hc with ⟨s, hs, hc⟩ | ⟨rfl, -⟩
  · exact (h s hs).kept c hc
  · decide

/-- A path whose dots are resolved stays as it is. -/
theorem rootedPath_intercalate {segments : List (List Char)} (hne : segments ≠ [])
    (h : ∀ s ∈ segments, IsSegment s) :
    rootedPath false (['/'].intercalate segments) = '/' :: ['/'].intercalate segments := by
  have hpieces : segmentsOf false (['/'].intercalate segments) = segments := by
    simp only [segmentsOf, Bool.false_eq_true, if_false]
    rw [encode_of_kept (kept_of_mem_intercalate h), pieces_intercalate hne fun s hs => (h s hs).one]
  rw [rootedPath, hpieces, resolveDots_of_isSegment [] hne h]
  rfl

theorem pathAfterAuthority_of_isPath {a : Authority} {cs : List Char} (h : IsPath (some a) cs) :
    pathAfterAuthority false cs = cs := by
  rcases h with rfl | ⟨segments, hne, hall, rfl⟩
  · rfl
  · exact rootedPath_intercalate hne hall

/-- The dot in front of a path that would be read as an authority is resolved away. -/
theorem rootedPath_dot {segments : List (List Char)} (hne : segments ≠ [])
    (h : ∀ s ∈ segments, IsSegment s) :
    rootedPath false ('.' :: '/' :: ['/'].intercalate segments) =
      '/' :: ['/'].intercalate segments := by
  have hpieces : segmentsOf false ('.' :: '/' :: ['/'].intercalate segments) = ['.'] :: segments := by
    -- the dot is one more segment, and the first to be resolved
    have hjoin : '.' :: '/' :: ['/'].intercalate segments = ['/'].intercalate (['.'] :: segments) := by
      cases segments with
      | nil => exact absurd rfl hne
      | cons s rest => rw [List.intercalate_cons_cons]; rfl
    have hkept : ∀ c ∈ '.' :: '/' :: ['/'].intercalate segments, Kept inPath c := by
      intro c hc
      rcases List.mem_cons.mp hc with rfl | hc
      · decide
      · rcases List.mem_cons.mp hc with rfl | hc
        · decide
        · exact kept_of_mem_intercalate h c hc
    simp only [segmentsOf, Bool.false_eq_true, if_false]
    rw [encode_of_kept hkept, hjoin, pieces_intercalate (List.cons_ne_nil _ _)]
    intro s hs
    rcases List.mem_cons.mp hs with rfl | hs
    · decide
    · exact (h s hs).one
  have hdot : resolveDots true [] (['.'] :: segments) = resolveDots true [] segments := by
    cases segments with
    | nil => exact absurd rfl hne
    | cons s rest => rfl
  rw [rootedPath, hpieces, hdot, resolveDots_of_isSegment [] hne h]
  rfl

/-! ## Behind the path -/

def queryText : Option (List Char) → List Char
  | some q => '?' :: q
  | none => []

def fragmentText : Option (List Char) → List Char
  | some f => '#' :: f
  | none => []

def authorityText : Option Authority → List Char
  | some a => '/' :: '/' :: renderAuthority a
  | none => []

theorem renderChars_eq (u : Url) :
    u.renderChars = u.scheme ++ ':' :: (authorityText u.authority ++ (u.renderPath ++
      (queryText u.query ++ fragmentText u.fragment))) := by
  unfold renderChars
  cases u.authority <;> cases u.query <;> cases u.fragment <;>
    simp [queryText, fragmentText, authorityText]

/-- A tail is cut where it was put together. -/
theorem cutTail_append {path q : List Char} {fragment : Option (List Char)} (hquery : '?' ∉ path)
    (hfragment : '#' ∉ path) (hq : '#' ∉ q) :
    cutTail (path ++ (queryText (some q) ++ fragmentText fragment)) = (path, some q, fragment) := by
  -- the fragment is cut off first, so a mark of a query in it does no harm
  have hfront : '#' ∉ path ++ '?' :: q := by simp [hfragment, hq]
  have hcut : cutFirst '?' (path ++ '?' :: q) = some (path, q) := cutFirst_append_cons hquery q
  unfold cutTail
  cases fragment with
  | none =>
    have htext : path ++ (queryText (some q) ++ fragmentText none) = path ++ '?' :: q := by
      simp [queryText, fragmentText]
    rw [htext, cutFirst_eq_none_iff.mpr hfront]
    simp only [hcut]
  | some f =>
    have htext : path ++ (queryText (some q) ++ fragmentText (some f)) =
        (path ++ '?' :: q) ++ '#' :: f := by simp [queryText, fragmentText]
    rw [htext, cutFirst_append_cons hfront]
    simp only [hcut]

theorem not_mem_of_isRooted {path : List Char} (h : IsRooted path) : '?' ∉ path ∧ '#' ∉ path := by
  obtain ⟨segments, -, hall, rfl⟩ := h
  have hkept := kept_of_mem_intercalate hall
  exact ⟨by simp [not_mem_of_kept '?' (by decide) hkept],
    by simp [not_mem_of_kept '#' (by decide) hkept]⟩

theorem not_mem_of_isPath {authority : Option Authority} {path : List Char}
    (h : IsPath authority path) : '?' ∉ path ∧ '#' ∉ path := by
  cases authority with
  | some a =>
    rcases h with rfl | h
    · simp
    · exact not_mem_of_isRooted h
  | none =>
    rcases h with h | h
    · exact ⟨h.query, h.fragment⟩
    · exact not_mem_of_isRooted h

/-- A written tail is read back, given a path that is read back. -/
theorem assemble_append {u : Url} (h : u.Normal) {q : List Char} (hq : u.query = some q)
    (path : List Char → List Char) {front : List Char} (hquery : '?' ∉ front)
    (hfragment : '#' ∉ front) (hpath : path front = u.path) :
    assemble u.scheme u.authority path (front ++ (queryText u.query ++ fragmentText u.fragment)) =
      u := by
  have hkept := h.query q hq
  have hcut : cutTail (front ++ (queryText (some q) ++ fragmentText u.fragment)) =
      (front, some q, u.fragment) :=
    cutTail_append hquery hfragment (not_mem_of_kept '#' (by decide) hkept)
  have hf : u.fragment.map (Percent.encode inFragment) = u.fragment := by
    cases hf : u.fragment with
    | none => rfl
    | some f => exact congrArg some (encode_of_kept (h.fragment f hf))
  rw [hq, assemble, hcut, h.scheme.ordinary]
  simp only [Option.map_some, encode_of_kept hkept, hf, hpath]
  rw [← hq]

/-! ## The whole -/

/-- A text that shows throughout and has no space at its ends is cleaned of nothing. -/
theorem cleaned_append {first : Char} {front back : List Char} (hfirst : isEdge first = false)
    (hback : back ≠ []) (hshow : ∀ c ∈ first :: front, 0x20 ≤ c.toNat)
    (hsolid : ∀ c ∈ back, isEdge c = false) :
    cleaned (first :: front ++ back) = first :: front ++ back := by
  have hhead : (first :: front ++ back).dropWhile isEdge = first :: front ++ back := by
    rw [List.cons_append, List.dropWhile_cons_of_neg (by simp [hfirst])]
  have hlast : (first :: front ++ back).reverse.dropWhile isEdge =
      (first :: front ++ back).reverse := by
    rw [List.reverse_append]
    cases hr : back.reverse with
    | nil => exact absurd (List.reverse_eq_nil_iff.mp hr) hback
    | cons c cs =>
      have hc : isEdge c = false := hsolid c (List.mem_reverse.mp (hr ▸ List.mem_cons_self))
      rw [List.cons_append, List.dropWhile_cons_of_neg (by simp [hc])]
  have hall : ∀ c ∈ first :: front ++ back, 0x20 ≤ c.toNat := by
    intro c hc
    rcases List.mem_append.mp hc with hc | hc
    · exact hshow c hc
    · have := hsolid c hc
      simp only [isEdge, decide_eq_false_iff_not] at this
      omega
  unfold cleaned
  rw [hhead, hlast, List.reverse_reverse]
  refine List.filter_eq_self.mpr fun c hc => ?_
  have hge := hall c hc
  simp only [Bool.and_eq_true, bne_iff_ne]
  refine ⟨⟨?_, ?_⟩, ?_⟩ <;>
    · rintro rfl
      exact absurd hge (by decide)

theorem le_toNat_of_kept {keep : UInt8 → Bool} (hkeep : ∀ b, keep b = true → shows b = true)
    {c : Char} (h : Kept keep c) : 0x20 ≤ c.toNat := by
  have hshows := hkeep _ h.2
  have hascii := h.1
  simp only [shows, Bool.and_eq_true, decide_eq_true_eq, UInt8.le_iff_toNat_le,
    Utf8.toNat_ofNat (show c.toNat < 256 by omega)] at hshows
  exact hshows.1

/-- Where a space does not stand for itself, nothing that does is an edge. -/
theorem isEdge_of_kept {keep : UInt8 → Bool} (hkeep : ∀ b, keep b = true → shows b = true)
    (hspace : keep 0x20 = false) {c : Char} (h : Kept keep c) : isEdge c = false := by
  have hge := le_toNat_of_kept hkeep h
  have hne : c.toNat ≠ 0x20 := fun e => by
    have hkept := h.2
    rw [e] at hkept
    exact Bool.noConfusion (hspace.symm.trans hkept)
  simp only [isEdge, decide_eq_false_iff_not]
  omega

theorem shows_of_inQuery {special : Bool} {b : UInt8} (h : inQuery special b = true) :
    shows b = true := shows_of_showsBut (Bool.and_eq_true_iff.mp h).1

theorem isEdge_of_mem_tail {u : Url} (h : u.Normal) {c : Char}
    (hc : c ∈ queryText u.query ++ fragmentText u.fragment) : isEdge c = false := by
  rcases List.mem_append.mp hc with hc | hc
  · cases hq : u.query with
    | none => simp [hq, queryText] at hc
    | some q =>
      rw [hq] at hc
      rcases List.mem_cons.mp hc with rfl | hc
      · decide
      · exact isEdge_of_kept (fun _ => shows_of_inQuery) (by decide) (h.query q hq c hc)
  · cases hf : u.fragment with
    | none => simp [hf, fragmentText] at hc
    | some f =>
      rw [hf] at hc
      rcases List.mem_cons.mp hc with rfl | hc
      · decide
      · exact isEdge_of_kept (fun _ => shows_of_showsBut) (by decide) (h.fragment f hf c hc)

theorem le_toNat_of_mem_host {host : List Char} (h : IsHost host) {c : Char} (hc : c ∈ host) :
    0x20 ≤ c.toNat := by
  have hbracketed : ∀ c ∈ bracketedChars, 0x20 ≤ c.toNat := forall_mem_of_all (by decide)
  cases h with
  | bracketed h => exact hbracketed c (mem_bracketedChars hc)
  | plain h => exact le_toNat_of_kept (fun _ h => h) (h c hc).1

theorem le_toNat_of_mem_renderAuthority {a : Authority} (h : a.Normal) {c : Char}
    (hc : c ∈ renderAuthority a) : 0x20 ≤ c.toNat := by
  rcases mem_renderAuthority hc with hc | rfl | hc
  · rcases kept_of_mem_userText h hc with hc | rfl
    · exact le_toNat_of_kept (fun _ => shows_of_showsBut) hc
    · decide
  · decide
  rcases List.mem_append.mp hc with hc | hc
  · exact le_toNat_of_mem_host h.host hc
  · cases hp : a.port with
    | none => simp [hp, portText] at hc
    | some n =>
      rw [hp] at hc
      rcases List.mem_cons.mp hc with rfl | hc
      · decide
      · have hdigit := Nat.isDigit_of_mem_toDigits (by decide) (by decide) hc
        simp only [Char.isDigit, Bool.and_eq_true, decide_eq_true_eq, ge_iff_le,
          UInt32.le_iff_toNat_le] at hdigit
        exact Nat.le_trans (by decide) hdigit.1

theorem le_toNat_of_mem_path {authority : Option Authority} {path : List Char}
    (h : IsPath authority path) {c : Char} (hc : c ∈ path) : 0x20 ≤ c.toNat := by
  have hrooted : IsRooted path → 0x20 ≤ c.toNat := by
    rintro ⟨segments, -, hall, rfl⟩
    rcases List.mem_cons.mp hc with rfl | hc
    · decide
    · exact le_toNat_of_kept (fun _ => shows_of_showsBut) (kept_of_mem_intercalate hall c hc)
  cases authority with
  | some a =>
    rcases h with rfl | h
    · cases hc
    · exact hrooted h
  | none =>
    rcases h with h | h
    · exact le_toNat_of_kept (fun _ h => h) (h.kept c hc)
    · exact hrooted h

theorem mem_renderPath {u : Url} {c : Char} (hc : c ∈ u.renderPath) :
    c = '/' ∨ c = '.' ∨ c ∈ u.path := by
  unfold renderPath at hc
  split at hc
  · simpa using hc
  · exact .inr (.inr hc)

theorem le_toNat_of_isSchemeChar {c : Char} (h : isSchemeChar c = true) : 0x20 ≤ c.toNat := by
  have hall : isSchemeChar c = true → 0x20 ≤ c.toNat :=
    of_forall_ascii c (toNat_lt_of_isSchemeChar h) (by decide)
  exact hall h

theorem le_toNat_of_mem_front {u : Url} (h : u.Normal) {c : Char}
    (hc : c ∈ u.scheme ++ ':' :: (authorityText u.authority ++ u.renderPath)) :
    0x20 ≤ c.toNat := by
  rw [List.mem_append, List.mem_cons, List.mem_append] at hc
  rcases hc with hc | rfl | hc | hc
  · exact le_toNat_of_isSchemeChar (h.scheme.chars c hc)
  · decide
  · cases ha : u.authority with
    | none => simp [ha, authorityText] at hc
    | some a =>
      rw [ha, authorityText, List.mem_cons, List.mem_cons] at hc
      rcases hc with rfl | rfl | hc
      · decide
      · decide
      · exact le_toNat_of_mem_renderAuthority (h.authority a ha) hc
  · rcases mem_renderPath hc with rfl | rfl | hc
    · decide
    · decide
    · exact le_toNat_of_mem_path h.path hc

/-- A written locator with a query is cleaned of nothing. -/
theorem cleaned_renderChars {u : Url} (h : u.Normal) (hq : u.query.isSome = true) :
    cleaned u.renderChars = u.renderChars := by
  obtain ⟨first, hfirst, halpha⟩ := h.scheme.head
  obtain ⟨rest, hscheme⟩ := List.head?_eq_some_iff.mp hfirst
  have hedge : isEdge first = false := by
    have hge := le_toNat_of_isSchemeChar (h.scheme.chars first (List.mem_of_head? hfirst))
    have hne : first.toNat ≠ 0x20 := fun e => by
      rw [← Char.ofNat_toNat first, e] at halpha
      exact absurd halpha (by decide)
    simp only [isEdge, decide_eq_false_iff_not]
    omega
  -- spaces may stand at the end of a path, and this is what keeps them from being cleaned away
  have hback : queryText u.query ++ fragmentText u.fragment ≠ [] := by
    obtain ⟨q, hq⟩ := Option.isSome_iff_exists.mp hq
    simp [hq, queryText]
  have htext : u.renderChars = (first :: (rest ++ ':' :: (authorityText u.authority ++
      u.renderPath))) ++ (queryText u.query ++ fragmentText u.fragment) := by
    rw [renderChars_eq, hscheme]
    simp
  rw [htext]
  refine cleaned_append hedge hback (fun c hc => le_toNat_of_mem_front h ?_) fun c hc =>
    isEdge_of_mem_tail h hc
  rwa [hscheme]

theorem cutScheme_append {scheme : List Char} (h : IsScheme scheme) (cs : List Char) :
    cutScheme (scheme ++ ':' :: cs) = some (scheme, cs) := by
  obtain ⟨first, hfirst, halpha⟩ := h.head
  obtain ⟨rest, hscheme⟩ := List.head?_eq_some_iff.mp hfirst
  have hcolon : ':' ∉ scheme := fun hmem => absurd (h.chars _ hmem) (by decide)
  have hlower := h.lower
  have hall := List.all_eq_true.mpr h.chars
  rw [cutScheme, cutFirst_append_cons hcolon]
  subst hscheme
  simp only [halpha, hall, Bool.and_self, if_true, hlower]

theorem behindAuthority_append {a : Authority} {path : List Char} (h : IsPath (some a) path)
    (query fragment : Option (List Char)) :
    BehindAuthority (path ++ (queryText query ++ fragmentText fragment)) := by
  intro c cs heq
  rcases h with rfl | ⟨segments, -, -, rfl⟩
  · cases query with
    | some q =>
      rw [← (List.cons.inj heq).1]
      decide
    | none =>
      cases fragment with
      | some f =>
        rw [← (List.cons.inj heq).1]
        decide
      | none => cases heq
  · rw [← (List.cons.inj heq).1]
    decide

section Parts

variable {scheme : List Char} (hs : IsScheme scheme)
include hs

theorem ofParts_authority (cs : List Char) :
    ofParts scheme ('/' :: '/' :: cs) = hierarchy scheme cs := by
  rw [ofParts, if_neg (ne_file_of_isScheme hs), if_neg (by simp [hs.ordinary])]

theorem ofParts_rooted {cs : List Char} (h : cs.head? ≠ some '/') :
    ofParts scheme ('/' :: cs) =
      .ok (assemble scheme none (fun front => rootedPath false (front.drop 1)) ('/' :: cs)) := by
  rw [ofParts, if_neg (ne_file_of_isScheme hs), if_neg (by simp [hs.ordinary])]
  rintro rest rfl
  exact h rfl

theorem ofParts_unrooted {cs : List Char} (h : cs.head? ≠ some '/') :
    ofParts scheme cs = .ok (assemble scheme none (Percent.encode shows) cs) := by
  rw [ofParts, if_neg (ne_file_of_isScheme hs), if_neg (by simp [hs.ordinary])] <;>
    · rintro rest rfl
      exact h rfl

end Parts

theorem head?_append_queryText {cs : List Char} {d : Char} (hd : d ≠ '?')
    (h : cs.head? ≠ some d) (q : List Char) (behind : List Char) :
    (cs ++ (queryText (some q) ++ behind)).head? ≠ some d := by
  cases cs with
  | nil => simpa [queryText] using fun e : '?' = d => hd e.symm
  | cons c cs => simpa using h

section ReadBack

variable {u : Url} (h : u.Normal) {q : List Char} (hquery : u.query = some q)
include h hquery

theorem ofParts_render_authority {a : Authority} (ha : u.authority = some a) :
    ofParts u.scheme ('/' :: '/' :: (renderAuthority a ++
      (u.path ++ (queryText u.query ++ fragmentText u.fragment)))) = .ok u := by
  have hpath := h.path
  obtain ⟨hquestion, hhash⟩ := not_mem_of_isPath hpath
  rw [ha] at hpath
  have hread := readAuthority_render h.scheme (h.authority a ha)
    (behindAuthority_append hpath u.query u.fragment)
  have hassemble := assemble_append h hquery _ hquestion hhash (pathAfterAuthority_of_isPath hpath)
  rw [ha] at hassemble
  rw [ofParts_authority h.scheme]
  simp only [hierarchy, hread, bind, Except.bind, pure, Except.pure, h.scheme.ordinary, hassemble]

theorem ofParts_render_unrooted (ha : u.authority = none) (hpath : IsOpaque u.path) :
    ofParts u.scheme (u.path ++ (queryText u.query ++ fragmentText u.fragment)) = .ok u := by
  have hassemble := assemble_append h hquery _ hpath.query hpath.fragment (encode_of_kept hpath.kept)
  rw [ha] at hassemble
  rw [ofParts_unrooted h.scheme, hassemble]
  rw [hquery]
  exact head?_append_queryText (by decide) hpath.head q _

/-- A rooted path without an authority is read back as it is, or behind the dot that keeps it from
being read as one. -/
theorem ofParts_render_rooted (ha : u.authority = none) {rest : List Char}
    (hrest : rest.head? ≠ some '/') (hmarks : '?' ∉ rest ∧ '#' ∉ rest)
    (hpath : rootedPath false rest = u.path) :
    ofParts u.scheme ('/' :: rest ++ (queryText u.query ++ fragmentText u.fragment)) = .ok u := by
  have hquestion : '?' ∉ '/' :: rest := by simp [hmarks.1]
  have hhash : '#' ∉ '/' :: rest := by simp [hmarks.2]
  have hassemble := assemble_append h hquery (fun front => rootedPath false (front.drop 1))
    hquestion hhash hpath
  rw [ha] at hassemble
  rw [List.cons_append, ofParts_rooted h.scheme, ← List.cons_append, hassemble]
  rw [hquery]
  exact head?_append_queryText (by decide) hrest q _

end ReadBack

/-- **A locator in normal form with a query is read back from its text.** -/
theorem parse_render {u : Url} (h : u.Normal) (hq : u.query.isSome = true) :
    parse u.render = .ok u := by
  obtain ⟨q, hquery⟩ := Option.isSome_iff_exists.mp hq
  have hpath := h.path
  obtain ⟨hquestion, hhash⟩ := not_mem_of_isPath hpath
  rw [parse, render, String.toList_ofList, cleaned_renderChars h hq, renderChars_eq,
    cutScheme_append h.scheme]
  dsimp only
  cases ha : u.authority with
  | some a =>
    have hrender : u.renderPath = u.path := by simp [renderPath, ha]
    rw [authorityText, List.cons_append, List.cons_append, hrender]
    exact ofParts_render_authority h hquery ha
  | none =>
    rw [ha] at hpath
    rw [authorityText, List.nil_append]
    rcases hpath with hopaque | ⟨segments, hne, hall, hsegments⟩
    · have hrender : u.renderPath = u.path := by
        unfold renderPath
        split
        · next hpath => exact absurd (by rw [hpath]; rfl) hopaque.head
        · rfl
      rw [hrender]
      exact ofParts_render_unrooted h hquery ha hopaque
    · by_cases hslash : (['/'].intercalate segments).head? = some '/'
      -- an empty first segment: two slashes would make an authority, and a dot is put in front
      · obtain ⟨rest, hrest⟩ := List.head?_eq_some_iff.mp hslash
        have hrender : u.renderPath = '/' :: '.' :: u.path := by
          simp [renderPath, ha, hsegments, hrest]
        have hresolved : rootedPath false ('.' :: u.path) = u.path := by
          rw [hsegments]
          exact rootedPath_dot hne hall
        rw [hrender]
        exact ofParts_render_rooted h hquery ha (by simp) (by simp [hquestion, hhash]) hresolved
      · have hrender : u.renderPath = u.path := by
          unfold renderPath
          split
          · next heq =>
            rw [hsegments] at heq
            exact absurd (by rw [(List.cons.inj heq).2]; rfl) hslash
          · rfl
        have hresolved : rootedPath false (['/'].intercalate segments) = u.path := by
          rw [hsegments]
          exact rootedPath_intercalate hne hall
        rw [hsegments] at hquestion hhash
        rw [hrender]
        rw [hsegments] at hresolved ⊢
        have hmarks : '?' ∉ ['/'].intercalate segments ∧ '#' ∉ ['/'].intercalate segments :=
          ⟨fun hmem => hquestion (List.mem_cons_of_mem _ hmem),
            fun hmem => hhash (List.mem_cons_of_mem _ hmem)⟩
        exact ofParts_render_rooted h hquery ha hslash hmarks (hresolved.trans hsegments.symm)

/-! ## Another query -/

theorem Normal.withQuery {u : Url} (h : u.Normal) (query : List Char) :
    (u.withQuery query).Normal where
  scheme := h.scheme
  authority := h.authority
  path := h.path
  query q hq c hc := by
    cases hq
    rw [h.scheme.ordinary] at hc
    exact kept_of_mem_encode stable_inQuery hc
  fragment := h.fragment

/-- **A locator that was read is read back with another query.** -/
theorem parse_render_withQuery {s : String} {u : Url} (h : parse s = .ok u)
    (hs : isSpecial u.scheme = false) (query : List Char) :
    parse (u.withQuery query).render = .ok (u.withQuery query) :=
  parse_render ((normal_of_parse h hs).withQuery query) rfl

end Url

end Tenancy.Net
