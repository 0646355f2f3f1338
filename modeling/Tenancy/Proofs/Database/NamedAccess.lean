import Tenancy.Proofs.Database.Session
import Tenancy.Proofs.Gate.Isolation

/-!
# Rows by name, whatever the database replies

Access by name decides on two replies: the row, and the database it belongs to. Both are JSON, in
which a label may be anything. A label that is a text is compared, always; but a label that is some
other value, and an owner that is not found, are read as if nothing were there. So what a tenant is
shown is fit to be shown exactly if the replies are free of the two (`closed_iff_readable`). The
database may change between the replies, and each of them may be any rows or a fault.

Listings are stricter: in SQL, a row whose owner is not there satisfies no condition on owners.
-/

set_option autoImplicit false

namespace Tenancy.Database

open Program

/-! ## What replies say of tenants -/

/-- A column that admits a tenant: it is not there, or null, or the tenant's id as a text. -/
def Admits (t : TenantId) (data : Json) (column : String) : Prop :=
  data.member? column = none ∨ data.member? column = some .null ∨
    data.member? column = some (.text t.text)

/-- A column that can be read as a label: it is not there, or null, or a text. -/
def Readable (data : Json) (column : String) : Prop :=
  data.member? column = none ∨ data.member? column = some .null ∨
    ∃ l, data.member? column = some (.text l)

/-- Something holds of the label of a row and of the label of the database that the row names, which
was found; `owner` is what was replied for the id of a database. -/
def Throughout (p : Json → String → Prop) (table : Table) (column : String) (data : Json)
    (owner : String → Except Error (Option Json)) : Prop :=
  p data column ∧ ∀ link v, table.owner = some link → data.member? link.foreignKey = some v →
    v ≠ .null → ∃ o, owner (v.plainText?.getD "") = .ok (some o) ∧ p o Table.labelColumn

section Labels

variable {t : TenantId} {table : Table} {column : String} {data : Json}

theorem Admits.readable (h : Admits t data column) : Readable data column := by
  rcases h with h | h | h
  · exact .inl h
  · exact .inr (.inl h)
  · exact .inr (.inr ⟨t.text, h⟩)

/-- A readable label that is not another tenant's admits the tenant. -/
theorem admits_of_not_foreign (hcolumn : table.tenantColumn = some column)
    (hread : Readable data column) (h : ¬(Row.ofColumns table data).facet.Foreign t) :
    Admits t data column := by
  rcases hread with hread | hread | ⟨l, hread⟩
  · exact .inl hread
  · exact .inr (.inl hread)
  · refine .inr (.inr ?_)
    have hlabel : (Row.ofColumns table data).tenantId = some ⟨l⟩ := by
      unfold Row.ofColumns
      simp only [hcolumn, Option.bind_some, hread]
      rfl
    have heq : (⟨l⟩ : TenantId) = t := by
      refine Classical.not_not.mp fun hne => h (Row.foreign_facet_iff.mpr ⟨?_, ⟨l⟩, hlabel, hne⟩)
      unfold Row.ofColumns
      simp only [hcolumn, Option.isSome_some]
    rw [hread, ← heq]

theorem ownerId?_ofColumns {link : OwnerLink} {v : Json} (hlink : table.owner = some link)
    (hkey : data.member? link.foreignKey = some v) (hv : v ≠ .null) :
    ownerId? table (.ofColumns table data) = some (v.plainText?.getD "") := by
  obtain ⟨key, hplain⟩ := Option.ne_none_iff_exists'.mp (mt Json.plainText?_eq_none_iff.mp hv)
  unfold ownerId? Row.ofColumns
  rw [hlink]
  simp [hkey, hplain]

end Labels

/-! ## What was fetched -/

section Access

variable {σ : Type} {database : σ → Statement → Reply × σ} {s : σ} {gate : Gate} {scope : Scope}
  {table : Table} {column id : String} {t : TenantId} {r : OwnedRow}

/-- What is replied for the id of a database, after the row with an id was asked for. -/
def ownerReply (database : σ → Statement → Reply × σ) (s : σ) (table : Table) (id key : String) :
    Except Error (Option Json) :=
  firstObject (database (database s (.rowById table id)).2 (.rowById Table.databases key)).1

/-- A row that is fetched was replied; and if it names a database, then either that was found and
came with the row, or it was not found and nothing came with the row. -/
theorem exists_of_getRow (h : (session database s (getRow table id)).1 = .ok (some r)) :
    ∃ data, firstObject (database s (.rowById table id)).1 = .ok (some data) ∧
      r.item = .ofColumns table data ∧
      ∀ key, ownerId? table (.ofColumns table data) = some key →
        ownerReply database s table id key = .ok none ∨
        ∃ o, ownerReply database s table id key = .ok (some o) ∧
          r.owner? = some (.free (.ofColumns Table.databases o)) := by
  rw [session_getRow] at h
  rcases hfirst : firstObject (database s (.rowById table id)).1 with e | _ | data
  · simp [hfirst] at h
  · simp [hfirst] at h
  · refine ⟨data, rfl, ?_⟩
    simp only [hfirst] at h
    cases hkey : ownerId? table (.ofColumns table data) with
    | none =>
      simp only [hkey, Except.ok.injEq, Option.some.injEq] at h
      obtain rfl := h
      exact ⟨rfl, fun key hk => absurd hk (by simp)⟩
    | some key =>
      simp only [hkey] at h
      change (ownerReply database s table id key).map _ = _ at h
      rcases howner : ownerReply database s table id key with e | _ | o
      · simp [howner, Except.map] at h
      · simp only [howner, Except.map, Option.elim, Except.ok.injEq, Option.some.injEq] at h
        obtain rfl := h
        exact ⟨rfl, fun key' hk => .inl (Option.some.inj hk ▸ howner)⟩
      · simp only [howner, Except.map, Option.elim, Except.ok.injEq, Option.some.injEq] at h
        obtain rfl := h
        exact ⟨rfl, fun key' hk => .inr ⟨o, Option.some.inj hk ▸ howner, rfl⟩⟩

/-- A row that a tenant's caller is answered was fetched, and nothing on its chain is foreign. -/
theorem of_getAccessible (ht : scope.tenant = some t)
    (hok : (session database s (gate.getAccessible scope catalog table id)).1 = .ok r) :
    (session database s (getRow table id)).1 = .ok (some r) ∧ ¬∃ x ∈ r.chain, x.facet.Foreign t := by
  rw [session_getAccessible] at hok
  rcases hrow : (session database s (getRow table id)).1 with e | _ | row
  · simp [hrow] at hok
  · simp [hrow] at hok
  · rw [hrow] at hok
    obtain ⟨rfl, hcheck, -⟩ := Gate.checked_eq_ok_iff.mp hok
    refine ⟨rfl, fun hfor => hcheck ?_⟩
    exact (tenantCheck_eq_deny_iff ht _).mpr (exists_foreign_resource_iff.mpr hfor)

/-- **What a tenant is shown by name is fit to be shown exactly if its labels can be read.** The row
was replied; and its label and the label of the database that it names admit the tenant if and only
if both are readable and the database was found. -/
theorem closed_iff_readable (hcolumn : table.tenantColumn = some column)
    (ht : scope.tenant = some t)
    (hok : (session database s (gate.getAccessible scope catalog table id)).1 = .ok r) :
    ∃ data, firstObject (database s (.rowById table id)).1 = .ok (some data) ∧
      r.item = .ofColumns table data ∧
      (Throughout (Admits t) table column data (ownerReply database s table id) ↔
        Throughout Readable table column data (ownerReply database s table id)) := by
  obtain ⟨hrow, hclear⟩ := of_getAccessible ht hok
  obtain ⟨data, hfirst, hitem, howner⟩ := exists_of_getRow hrow
  refine ⟨data, hfirst, hitem, ?_, ?_⟩
  · rintro ⟨hlabel, hlink⟩
    refine ⟨hlabel.readable, fun link v hl hkey hv => ?_⟩
    obtain ⟨o, ho, holabel⟩ := hlink link v hl hkey hv
    exact ⟨o, ho, holabel.readable⟩
  · rintro ⟨hlabel, hlink⟩
    have hown : ¬(Row.ofColumns table data).facet.Foreign t := fun hfor =>
      hclear ⟨r.item, Owned.item_mem_chain r, hitem ▸ hfor⟩
    refine ⟨admits_of_not_foreign hcolumn hlabel hown, fun link v hl hkey hv => ?_⟩
    obtain ⟨o, ho, holabel⟩ := hlink link v hl hkey hv
    -- the database was found, so it came with the row and was checked with it
    have hfree : r.owner? = some (.free (.ofColumns Table.databases o)) := by
      rcases howner _ (ownerId?_ofColumns hl hkey hv) with hnone | ⟨o', ho', hfree⟩
      · exact absurd (hnone.symm.trans ho) (by simp)
      · obtain rfl := Option.some.inj (Except.ok.inj (ho'.symm.trans ho))
        exact hfree
    have hdatabases : Table.databases.tenantColumn = some Table.labelColumn := rfl
    refine ⟨o, ho, admits_of_not_foreign hdatabases holabel fun hfor => hclear ?_⟩
    exact ⟨_, Owned.owner_mem_chain hfree, hfor⟩

end Access

/-! ## Some replies -/

/-- A reply of one JSON column. -/
def jsonReply (rows : List Json) : Reply :=
  .ok ⟨[⟨"row_to_json", .json⟩], rows.map fun j => [.json j]⟩

def acme : TenantId := ⟨"acme"⟩

/-- The scope of a caller of that tenant. -/
def acmeScope : Scope := .of (.resolved acme .header default) none

/-- A data source of the tenant's in the database with the number 2. -/
def ownDatasource : Json :=
  .ofPairs [("id", .ofInt 10), ("database_id", .ofInt 2), ("tenant_id", .text "acme")]

/-- A data source and its database, neither of them another tenant's. -/
theorem closed_iff_readable_sample :
    let replies := [jsonReply [ownDatasource], jsonReply [.ofPairs [("id", .ofInt 2)]]]
    ∃ r data, (session prepared replies ((⟨.allowAll, false⟩ : Gate).getAccessible acmeScope catalog
        .datasets "10")).1 = .ok r ∧ r.item = .ofColumns .datasets data ∧
      Throughout (Admits acme) .datasets "tenant_id" data
        (ownerReply prepared replies .datasets "10") := by
  intro replies
  obtain ⟨r, hr⟩ : ∃ r, (session prepared replies ((⟨.allowAll, false⟩ : Gate).getAccessible
      acmeScope catalog .datasets "10")).1 = .ok r := ⟨_, rfl⟩
  obtain ⟨data, hdata, hitem, hiff⟩ := closed_iff_readable
    (rfl : Table.datasets.tenantColumn = some "tenant_id") (rfl : acmeScope.tenant = some acme) hr
  refine ⟨r, data, hr, hitem, hiff.mpr ?_⟩
  obtain rfl : ownDatasource = data := Option.some.inj (Except.ok.inj hdata)
  refine ⟨.inr (.inr ⟨"acme", rfl⟩), fun link v hlink hkey _ => ?_⟩
  obtain rfl := Option.some.inj hlink
  obtain rfl : Json.ofInt 2 = v := Option.some.inj hkey
  exact ⟨_, rfl, .inl rfl⟩

/-- A dashboard whose label is a number is shown to any tenant, and so is a data source whose
database is not there. -/
theorem unreadable_shown :
    let gate : Gate := ⟨.allowAll, false⟩
    let numbered : Json := .ofPairs [("id", .ofInt 1), ("tenant_id", .ofInt 5)]
    let one := [jsonReply [numbered]]
    let two := [jsonReply [ownDatasource], jsonReply []]
    (∃ r, (session prepared one (gate.getAccessible acmeScope catalog .dashboards "1")).1 = .ok r ∧
      r.item = .ofColumns .dashboards numbered ∧
      ¬Throughout (Admits acme) .dashboards "tenant_id" numbered
        (ownerReply prepared one .dashboards "1")) ∧
    (∃ r, (session prepared two (gate.getAccessible acmeScope catalog .datasets "10")).1 = .ok r ∧
      r.item = .ofColumns .datasets ownDatasource ∧
      ¬Throughout (Admits acme) .datasets "tenant_id" ownDatasource
        (ownerReply prepared two .datasets "10")) := by
  intro gate numbered one two
  refine ⟨⟨_, rfl, rfl, fun h => ?_⟩, ⟨_, rfl, rfl, fun h => ?_⟩⟩
  · have hlabel : numbered.member? "tenant_id" = some (.ofInt 5) := rfl
    obtain ⟨hadmits, -⟩ := h
    unfold Admits at hadmits
    rw [hlabel] at hadmits
    simp [Json.ofInt] at hadmits
  · have hkey : ownDatasource.member? "database_id" = some (.ofInt 2) := rfl
    obtain ⟨o, ho, -⟩ := h.2 Table.databaseLink (.ofInt 2) rfl hkey (by simp [Json.ofInt])
    have hmissing : ownerReply prepared two .datasets "10" "2" = .ok none := rfl
    exact absurd (hmissing.symm.trans ho) (by simp)

end Tenancy.Database
