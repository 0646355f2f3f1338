import Tenancy.Proofs.Schema.Query
import Tenancy.Proofs.Schema.Startup
import Tenancy.Schema.ConnectOptions

/-!
# How startup options come together

Connect options are read parameter by parameter, and their text of startup options grows beside the
rest: what a parameter adds depends on nothing else, and no other field depends on that text
(`withParameter_setText`). So two queries that differ in parameters of options only are read alike
in all other fields, or fail alike (`foldlM_eq_foldlM_others`).

With the option of a tenant's search path in the query, the text is what it was up to the parameter
that has the option, the option, and what the parameters behind it add (`foldl_grown_addOption`).
-/

set_option autoImplicit false

namespace Tenancy.Schema

open Net Text Startup

namespace ConnectOptions

/-! ## The text beside the rest -/

/-- The startup options as characters. -/
def text (o : ConnectOptions) : Option (List Char) := o.options.map String.toList

/-- The options with other startup options. -/
def setText (o : ConnectOptions) (text : Option (List Char)) : ConnectOptions :=
  { o with options := text.map String.ofList }

@[simp] theorem text_setText (o : ConnectOptions) (t : Option (List Char)) :
    (o.setText t).text = t := by
  cases t <;> simp [text, setText]

@[simp] theorem setText_setText (o : ConnectOptions) (t t' : Option (List Char)) :
    (o.setText t).setText t' = o.setText t' := rfl

@[simp] theorem setText_text (o : ConnectOptions) : o.setText o.text = o := by
  cases o with
  | mk host port database options => cases options <;> simp [text, setText]

/-- What a parameter adds to the startup options. -/
def addition? (p : List Char × List Char) : Option (List Char) :=
  if p.1 = optionsName then some p.2
  else (settingName? p.1).map fun name => flag ++ ' ' :: (name.toList ++ '=' :: p.2)

/-- The startup options with one parameter read. Only a setting of its own is added to an empty text
without a space. -/
def grown (text : Option (List Char)) (p : List Char × List Char) : Option (List Char) :=
  match addition? p, text with
  | none, text => text
  | some a, none => some a
  | some a, some before =>
    some (if before = [] ∧ p.1 ≠ optionsName then a else before ++ ' ' :: a)

theorem grown_of_none {p : List Char × List Char} (h : addition? p = none)
    (text : Option (List Char)) : grown text p = text := by
  simp [grown, h]

/-- The options with one parameter read, as it is done over the pairs of a query. -/
def stepped (o : ConnectOptions) (p : List Char × List Char) : Except String ConnectOptions :=
  o.withParameter (String.ofList p.1) (String.ofList p.2)

theorem withOptions_setText (o : ConnectOptions) (t : Option (List Char)) (value : List Char) :
    (o.setText t).withOptions (String.ofList value) = o.setText (grown t (optionsName, value)) := by
  cases t with
  | none => simp [withOptions, setText, grown, addition?]
  | some before =>
    have htext : String.ofList before ++ " " ++ String.ofList value =
        String.ofList (before ++ ' ' :: value) := by
      apply String.toList_injective
      simp
    simp [withOptions, setText, grown, addition?, htext]

/-- The setting of a parameter in brackets is put behind a space, unless nothing is in front. -/
theorem withSetting_setText {key : List Char} {name : String} (hkey : key ≠ optionsName)
    (hname : settingName? key = some name) (o : ConnectOptions) (t : Option (List Char))
    (value : List Char) :
    (o.setText t).withSetting name (String.ofList value) = o.setText (grown t (key, value)) := by
  have hadd : addition? (key, value) = some (flag ++ ' ' :: (name.toList ++ '=' :: value)) := by
    simp [addition?, hkey, hname]
  have htext : ∀ before gap : String,
      before ++ gap ++ "-c " ++ name ++ "=" ++ String.ofList value =
        String.ofList (before.toList ++ gap.toList ++
          (flag ++ ' ' :: (name.toList ++ '=' :: value))) := by
    intro before gap
    apply String.toList_injective
    simp [flag]
  cases t with
  | none =>
    simp only [withSetting, setText, grown, hadd, Option.map_none, Option.getD_none, if_true, htext]
    rfl
  | some before =>
    simp only [withSetting, setText, grown, hadd, Option.map_some, Option.getD_some, htext,
      String.toList_ofList]
    by_cases hempty : before = []
    · simp [hempty, hkey]
    · have hne : ¬String.ofList before = "" := fun e => hempty (by simpa using congrArg String.toList e)
      simp [hempty, hne]

theorem grown_of_key {key : List Char} {name : String} (h : String.ofList key = name)
    (hname : name.toList ≠ optionsName ∧ settingName? name.toList = none)
    (t : Option (List Char)) (value : List Char) : grown t (key, value) = t := by
  obtain rfl : key = name.toList := by rw [← h, String.toList_ofList]
  refine grown_of_none ?_ t
  simp [addition?, hname.1, hname.2]

/-- **A parameter is read the same whatever the startup options are**, and adds to them what it adds
by itself. The cases are those of the names that parameters can have. -/
theorem stepped_setText (o : ConnectOptions) (t : Option (List Char)) (p : List Char × List Char) :
    (o.setText t).stepped p = (o.stepped p).map fun o' => o'.setText (grown t p) := by
  obtain ⟨key, value⟩ := p
  unfold stepped withParameter
  simp only
  split
  · next hkey =>
    rw [grown_of_key hkey (by decide)]
    split <;> rfl
  · next hkey =>
    rw [grown_of_key hkey (by decide)]
    split <;> rfl
  · next hkey =>
    rw [grown_of_key hkey (by decide)]
    cases numberOf Natural.max64 (String.ofList value) <;> rfl
  · next hkey =>
    rw [grown_of_key hkey (by decide)]
    unfold withHost
    split <;> rfl
  · next hkey =>
    rw [grown_of_key hkey (by decide)]
    split <;> rfl
  · next hkey =>
    rw [grown_of_key hkey (by decide)]
    cases numberOf Natural.max16 (String.ofList value) <;> rfl
  · next hkey =>
    rw [grown_of_key hkey (by decide)]
    rfl
  -- only options themselves, and settings of their own, add to the text
  · next hkey =>
    have hkey : key = optionsName := by
      have h := congrArg String.toList hkey
      rw [String.toList_ofList] at h
      exact h.trans (by decide)
    rw [withOptions_setText, hkey]
    rfl
  · next hkey =>
    have hkey : key ≠ optionsName := fun e => hkey (by rw [e]; decide)
    rw [String.toList_ofList]
    cases hname : settingName? key with
    | some name =>
      simp only [withSetting_setText hkey hname]
      rfl
    | none =>
      rw [grown_of_none (by simp [addition?, hkey, hname])]
      rfl

/-! ## All parameters -/

theorem foldlM_setText (ps : List (List Char × List Char)) (o : ConnectOptions)
    (t : Option (List Char)) :
    ps.foldlM stepped (o.setText t) =
      (ps.foldlM stepped o).map fun o' => o'.setText (ps.foldl grown t) := by
  induction ps generalizing o t with
  | nil => rfl
  | cons p ps ih =>
    rw [List.foldlM_cons, List.foldlM_cons, stepped_setText]
    cases o.stepped p with
    | error e => rfl
    | ok o' => exact ih o' (grown t p)

theorem stepped_optionsName (o : ConnectOptions) {p : List Char × List Char}
    (h : p.1 = optionsName) : o.stepped p = .ok (o.setText (grown o.text p)) := by
  obtain ⟨key, value⟩ := p
  obtain rfl : key = optionsName := h
  have hkey : String.ofList optionsName = "options" := by decide
  have hread := withOptions_setText o o.text value
  rw [setText_text] at hread
  unfold stepped
  rw [hkey, ← hread]
  rfl

theorem text_of_stepped {o o' : ConnectOptions} {p : List Char × List Char}
    (h : o.stepped p = .ok o') : o'.text = grown o.text p := by
  have hread := stepped_setText o o.text p
  rw [setText_text, h] at hread
  rw [Except.ok.inj hread, text_setText]

/-- The parameters that are not of options. -/
def others (ps : List (List Char × List Char)) : List (List Char × List Char) :=
  ps.filter fun p => p.1 ≠ optionsName

/-- **Parameters of options change the startup options and nothing else**: all other fields are
those that the other parameters alone give, and so are the faults. -/
theorem foldlM_eq_foldlM_others (ps : List (List Char × List Char)) (o : ConnectOptions) :
    ps.foldlM stepped o =
      ((others ps).foldlM stepped o).map fun o' => o'.setText (ps.foldl grown o.text) := by
  induction ps generalizing o with
  | nil => exact congrArg Except.ok (setText_text o).symm
  | cons p ps ih =>
    by_cases hp : p.1 = optionsName
    -- an option can be read after all others as well, as they leave the text alone
    · have hothers : others (p :: ps) = others ps := by simp [others, hp]
      rw [List.foldlM_cons, stepped_optionsName o hp, hothers]
      refine (foldlM_setText ps o (grown o.text p)).trans ?_
      rw [ih o]
      cases (others ps).foldlM stepped o <;> rfl
    · have hothers : others (p :: ps) = p :: others ps := by simp [others, hp]
      rw [List.foldlM_cons, hothers, List.foldlM_cons]
      cases hstep : o.stepped p with
      | error e => rfl
      | ok o' =>
        rw [List.foldl_cons, ← text_of_stepped hstep]
        exact ih o'

/-- What the parts of a locator before its query say. -/
def ofFront (url : Url) : Except String ConnectOptions := do
  let o ← default.ofAuthority url.authority
  let path := url.path.dropWhile (· == '/')
  if path = [] then return o else return { o with database := some (← decoded path) }

theorem ofUrl_eq (url : Url) :
    ofUrl url = (ofFront url).bind fun o => (Form.pairs (url.query.getD [])).foldlM stepped o := by
  unfold ofUrl ofFront
  cases default.ofAuthority url.authority with
  | error e => rfl
  | ok o =>
    simp only [bind, Except.bind, pure, Except.pure]
    split
    · rfl
    · cases decoded (url.path.dropWhile fun c => c == '/') <;> rfl

theorem text_of_ofHost {o o' : ConnectOptions} {host : List Char} (h : o.ofHost host = .ok o') :
    o'.text = o.text := by
  unfold ofHost at h
  split at h
  · cases h
    rfl
  · split at h
    · cases hd : decoded host with
      | error e => simp [hd, Except.map] at h
      | ok d =>
        rw [hd] at h
        cases h
        rfl
    · cases h
      rfl

theorem text_of_ofAuthority {o o' : ConnectOptions} {authority : Option Authority}
    (h : o.ofAuthority authority = .ok o') : o'.text = o.text := by
  cases authority with
  | none =>
    cases h
    rfl
  | some a =>
    cases hhost : o.ofHost a.host with
    | error e => simp [ofAuthority, hhost, bind, Except.bind] at h
    | ok o₁ =>
      cases hname : decoded a.username with
      | error e =>
        simp [ofAuthority, hhost, hname, bind, Except.bind, discard, Functor.discard, Functor.mapConst,
          Except.map] at h
      | ok name =>
        cases hpassword : decoded (a.password.getD []) with
        | error e =>
          simp [ofAuthority, hhost, hname, hpassword, bind, Except.bind, discard, Functor.discard,
            Functor.mapConst, Except.map] at h
        | ok password =>
          simp only [ofAuthority, hhost, hname, hpassword, bind, Except.bind, discard,
            Functor.discard, Functor.mapConst, pure, Except.pure] at h
          rw [← text_of_ofHost hhost]
          cases h
          rfl

/-- No startup options are said before the query. -/
theorem text_of_ofFront {url : Url} {o : ConnectOptions} (h : ofFront url = .ok o) :
    o.text = none := by
  unfold ofFront at h
  cases hread : default.ofAuthority url.authority with
  | error e => simp [hread, bind, Except.bind] at h
  | ok o₁ =>
    have htext := text_of_ofAuthority hread
    simp only [hread, bind, Except.bind, pure, Except.pure] at h
    split at h
    · cases h
      exact htext
    · cases hpath : decoded (url.path.dropWhile fun c => c == '/') with
      | error e => simp [hpath] at h
      | ok name =>
        simp only [hpath] at h
        cases h
        exact htext

/-- The startup options of a query. -/
def startup (query : Option (List Char)) : Option (List Char) :=
  (Form.pairs (query.getD [])).foldl grown none

/-- **A locator that differs in parameters of options only is read alike**, but for the startup
options. -/
theorem ofUrl_of_others {url url' : Url} {o : ConnectOptions} (h : ofUrl url = .ok o)
    (hfront : ofFront url' = ofFront url)
    (hothers : others (Form.pairs (url'.query.getD [])) = others (Form.pairs (url.query.getD []))) :
    o.text = startup url.query ∧ ofUrl url' = .ok (o.setText (startup url'.query)) := by
  rw [ofUrl_eq] at h ⊢
  rw [hfront]
  cases hread : ofFront url with
  | error e =>
    rw [hread] at h
    cases h
  | ok front =>
    rw [hread] at h
    -- both queries are read from the same front, and without options they are the same
    have htext := text_of_ofFront hread
    simp only [Except.bind] at h ⊢
    rw [foldlM_eq_foldlM_others, htext] at h ⊢
    rw [hothers]
    cases hfold : (others (Form.pairs (url.query.getD []))).foldlM stepped front with
    | error e =>
      rw [hfold] at h
      cases h
    | ok o₁ =>
      rw [hfold] at h
      cases h
      exact ⟨text_setText _ _, rfl⟩

end ConnectOptions

/-! ## With the option of a search path -/

open ConnectOptions

/-- The segments up to the one that an option is added to, that one included if it has a value. -/
def upToOption : List (List Char) → List (List Char)
  | [] => []
  | s :: rest =>
    match optionsValue? s with
    | some existing => if existing = [] then [] else [s]
    | none => s :: upToOption rest

/-- The segments behind the one that an option is added to. -/
def behindOption : List (List Char) → List (List Char)
  | [] => []
  | s :: rest =>
    match optionsValue? s with
    | some _ => rest
    | none => behindOption rest

/-- An option behind the startup options that there are. -/
def joined (text : Option (List Char)) (option : List Char) : List Char :=
  match text with
  | none => option
  | some before => before ++ ' ' :: option

/-- What parameters put behind startup options that are not empty. -/
def tailOf (ps : List (List Char × List Char)) : List Char :=
  (ps.filterMap addition?).flatMap fun a => ' ' :: a

theorem foldl_grown_some {text : List Char} (h : text ≠ []) (ps : List (List Char × List Char)) :
    ps.foldl grown (some text) = some (text ++ tailOf ps) := by
  induction ps generalizing text with
  | nil => simp [tailOf]
  | cons p ps ih =>
    rw [List.foldl_cons]
    cases hadd : addition? p with
    | none =>
      rw [grown_of_none hadd, ih h]
      simp [tailOf, hadd]
    | some a =>
      have hgrown : grown (some text) p = some (text ++ ' ' :: a) := by simp [grown, hadd, h]
      rw [hgrown, ih (by simp)]
      simp [tailOf, hadd]

theorem grown_optionsName (text : Option (List Char)) (value : List Char) :
    grown text (optionsName, value) = some (joined text value) := by
  cases text <;> simp [grown, addition?, joined]

theorem joined_ne_nil (text : Option (List Char)) {option : List Char} (h : option ≠ []) :
    joined text option ≠ [] := by
  cases text <;> simp [joined, h]

/-- **The option stands behind what was said before it**, and what the parameters behind it say
stands behind the option. The induction is over the segments, up to the one that has the option. -/
theorem foldl_grown_addOption {option : List Char} (hoption : option ≠ [])
    (text : Option (List Char)) (ss : List (List Char)) :
    ((addOption (Form.encodeComponent option) ss).map Form.pair).foldl grown text =
      some (joined (((upToOption ss).map Form.pair).foldl grown text) option ++
        tailOf ((behindOption ss).map Form.pair)) := by
  induction ss generalizing text with
  | nil =>
    simp only [addOption, upToOption, behindOption, List.map_cons, List.map_nil, List.foldl_cons,
      List.foldl_nil, pair_optionsSegment, if_true, grown_optionsName]
    simp [tailOf]
  | cons s ss ih =>
    cases hvalue : optionsValue? s with
    | none =>
      simp only [addOption, upToOption, behindOption, hvalue, List.map_cons, List.foldl_cons]
      exact ih _
    | some existing =>
      have hs := pair_of_optionsValue? hvalue
      simp only [addOption, upToOption, behindOption, hvalue, List.map_cons, List.foldl_cons,
        pair_optionsSegment]
      -- an empty value is replaced, any other one stays in front
      by_cases hexisting : existing = []
      · rw [if_pos hexisting, if_pos hexisting, grown_optionsName,
          foldl_grown_some (joined_ne_nil _ hoption)]
        rfl
      · rw [if_neg hexisting, if_neg hexisting, grown_optionsName,
          foldl_grown_some (joined_ne_nil _ (by simp)), List.map_singleton, List.foldl_cons,
          List.foldl_nil, hs, grown_optionsName]
        cases text <;> simp [joined]

theorem others_addOption (option : List Char) (ss : List (List Char)) :
    others ((addOption (Form.encodeComponent option) ss).map Form.pair) =
      others (ss.map Form.pair) := by
  induction ss with
  | nil => simp [addOption, others, pair_optionsSegment]
  | cons s ss ih =>
    cases hvalue : optionsValue? s with
    | none =>
      unfold others at ih ⊢
      rw [addOption, hvalue]
      simp only [List.map_cons, List.filter_cons, ih]
    | some existing =>
      have hs := pair_of_optionsValue? hvalue
      rw [addOption, hvalue]
      simp [others, hs, pair_optionsSegment]

end Tenancy.Schema
