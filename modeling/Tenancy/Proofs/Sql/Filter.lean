import Tenancy.Filter
import Tenancy.Proofs.Sql.Meaning

/-!
# What the tenant filter means as a condition

In the condition that a filter becomes, the tenant is a parameter and owners are looked up by a
foreign key. It is true of a row exactly if the row's label is the tenant's, or missing where that is
enough, and the row belongs to nothing or to an owner whose label is the tenant's or missing.
-/

set_option autoImplicit false

namespace Tenancy

open Sql

/-- A label admits a tenant: it is the tenant's, or there is none. -/
def Sql.Value.Admits (v : Value) (t : TenantId) : Prop := v.text? = none ∨ v.text? = some t.text

namespace Filter

section Truth

variable {f : Filter} {db : Content} {relation : String} {index : Nat} {params : List String}
  {env : Env} {x : Tuple}

theorem text?_column (henv : env.lookup relation = some x) (name : String) :
    (Term.column relation name).text? env params = (x name).text? := by
  simp [Term.text?, henv]

theorem truth_ownCondition_iff (henv : env.lookup relation = some x)
    (hparam : params[index - 1]? = some f.tenant.text) :
    (f.ownCondition relation index).truth db params env = some true ↔
      (x f.column).text? = some f.tenant.text ∨
        (x f.column).text? = none ∧ f.includeUnscoped = true := by
  have hequals : (Cond.equals (.column relation f.column) (.param index)).truth db params env
      = some true ↔ (x f.column).text? = some f.tenant.text := by
    show Truth.same _ (params[index - 1]?) = some true ↔ _
    rw [text?_column henv, hparam, Truth.same_eq_true]
    constructor
    · rintro ⟨s, hx, hs⟩
      rw [hx, ← hs]
    · intro hx
      exact ⟨_, hx, rfl⟩
  unfold ownCondition
  cases f.includeUnscoped with
  | false => simpa using hequals
  | true =>
    show Truth.or _ (some (Option.isNone _)) = some true ↔ _
    rw [Truth.or_eq_true, hequals, text?_column henv]
    refine or_congr_right ?_
    simp [Option.isNone_iff_eq_none]

/-- A row belongs to nothing, or to an owner that admits the tenant. -/
theorem truth_ownerCondition_iff {link : OwnerLink} {t : TenantId}
    (henv : env.lookup relation = some x) (hparam : params[index - 1]? = some t.text) :
    (ownerCondition link relation index).truth db params env = some true ↔
      (x link.foreignKey).text? = none ∨
        ∃ rel, db.relation? link.table = some rel ∧ ∃ o ∈ rel.tuples,
          (o link.tenantColumn).Admits t ∧
            ∃ s, (x link.foreignKey).text? = some s ∧ (o link.idColumn).text? = some s := by
  show Truth.or (some (Option.isNone _)) (Cond.truth db params env (.among ..)) = some true ↔ _
  rw [Truth.or_eq_true, truth_among_eq_true, text?_column henv]
  refine or_congr (by simp [Option.isNone_iff_eq_none]) ?_
  -- the foreign key stands outside of the inner selection, so it is still that of the row
  refine exists_congr fun rel => and_congr_right' (exists_congr fun o => and_congr_right' ?_)
  refine and_congr_left' ?_
  have hinner : ((ownerRelation, o) :: env).lookup ownerRelation = some o := by
    simp
  show Truth.or (some (Option.isNone _)) (Truth.same _ (params[index - 1]?)) = some true ↔ _
  rw [Truth.or_eq_true, text?_column hinner, hparam, Truth.same_eq_true]
  unfold Sql.Value.Admits
  refine or_congr (by simp [Option.isNone_iff_eq_none]) ?_
  constructor
  · rintro ⟨s, ho, hs⟩
    rw [ho, ← hs]
  · intro ho
    exact ⟨_, ho, rfl⟩

/-- **The condition is true of a row exactly if the row's label and its owner's are right.** -/
theorem truth_condition_iff (henv : env.lookup relation = some x)
    (hparam : params[index - 1]? = some f.tenant.text) :
    (f.condition relation index).truth db params env = some true ↔
      ((x f.column).text? = some f.tenant.text ∨
        (x f.column).text? = none ∧ f.includeUnscoped = true) ∧
      ∀ link, f.owner = some link → (x link.foreignKey).text? = none ∨
        ∃ rel, db.relation? link.table = some rel ∧ ∃ o ∈ rel.tuples,
          (o link.tenantColumn).Admits f.tenant ∧
            ∃ s, (x link.foreignKey).text? = some s ∧ (o link.idColumn).text? = some s := by
  unfold condition
  cases howner : f.owner with
  | none => simp [truth_ownCondition_iff henv hparam]
  | some link =>
    show Truth.and _ _ = some true ↔ _
    rw [Truth.and_eq_true, truth_ownCondition_iff henv hparam,
      truth_ownerCondition_iff henv hparam]
    refine and_congr_right' ?_
    constructor
    · rintro h link' hlink
      obtain rfl := Option.some.inj hlink
      exact h
    · intro h
      exact h link rfl

end Truth

theorem column_mem_of_isKnown {f : Filter} {db : Content} {relation : String} {index : Nat}
    {names : Names} {columns : List String} (hnames : names.lookup relation = some columns)
    (h : (f.condition relation index).isKnown db names = true) : f.column ∈ columns := by
  have hown : (f.ownCondition relation index).isKnown db names = true := by
    unfold condition at h
    cases howner : f.owner with
    | none =>
      rw [howner] at h
      exact h
    | some link =>
      rw [howner] at h
      exact (Bool.and_eq_true_iff.mp h).1
  unfold ownCondition at hown
  cases hu : f.includeUnscoped <;>
    simpa [hu, Cond.isKnown, Term.isKnown, hnames] using hown

end Filter

end Tenancy
