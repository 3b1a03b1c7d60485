import Vacancy.Proofs.Limits

/-!
Pages of a view. Those of a table, or of a chart without groups, are pages of one list, the rows of
the scope in order; a chart with groups has but one page.
-/

namespace Vacancy

open Sql

theorem flatMap_of_mapM {f : α → Except ε β} {g : β → List γ} {h : α → List γ} {as : List α}
    {bs : List β} (hok : as.mapM f = .ok bs) (hfg : ∀ a ∈ as, ∀ b, f a = .ok b → g b = h a) :
    bs.flatMap g = as.flatMap h := by
  induction as generalizing bs with
  | nil =>
    simp only [List.mapM_nil, pure, Except.pure, Except.ok.injEq] at hok
    simp [← hok]
  | cons a as ih =>
    obtain ⟨b, bs', hb, hbs, rfl⟩ := mapM_cons_eq_ok_iff.1 hok
    rw [List.flatMap_cons, List.flatMap_cons, hfg a List.mem_cons_self b hb,
      ih hbs fun a' ha' => hfg a' (List.mem_cons_of_mem _ ha')]

namespace View

variable {v : View} {d : Database}

theorem plan_of_page {page : Page} {p : Plan} (hplan : v.plan page = .ok p)
    (hrows : v.ByRow) (page' : Page) (rows : List Row) :
    ∃ p' payload, v.plan page' = .ok p' ∧ v.Presents rows payload := by
  obtain ⟨hrun, hplanned⟩ := plan_eq_ok_iff.1 hplan
  cases hplanned with
  | table hlayout hnames hne hcolumns =>
    exact ⟨_, _, plan_eq_ok_iff.2 ⟨hrun, .table hlayout hnames hne hcolumns⟩,
      .table hlayout hnames hcolumns⟩
  | points hlayout hx hy hgroups =>
    exact ⟨_, _, plan_eq_ok_iff.2 ⟨hrun, .points hlayout hx hy hgroups⟩,
      .points hlayout hx hy hgroups⟩
  | buckets hlayout _ _ hne =>
    rcases hrows with htable | hnone
    · simp [hlayout] at htable
    · contradiction

theorem plan_page_of_groups (hrows : ¬v.ByRow) (page page' : Page) :
    v.plan page = v.plan page' := by
  obtain ⟨hlayout, hgroups⟩ := not_or.1 hrows
  unfold plan
  split
  · rfl
  · split
    · simp only [planChart, points_of_groups hgroups]
    · contradiction
    · rfl
    · rfl

theorem Presents.entries_cut {rows : List Row} {page : Page} {whole payload : Payload}
    (hwhole : v.Presents rows whole) (hpayload : v.Presents (page.cut rows) payload) :
    payload.entries = page.cut whole.entries := by
  obtain ⟨f, hf, hf'⟩ := hwhole.entries_map hpayload
  rw [hf, hf', Page.map_cut]

theorem execute_of_presents {page : Page} {p : Plan} (hplan : v.plan page = .ok p)
    (hfew : (d.table v.grain).rows.length < 2 ^ 63) {rows : List Row} {payload : Payload}
    (hperm : rows.Perm (v.base d)) (hsorted : rows.Pairwise v.Before)
    (hpayload : v.Presents (page.cut rows) payload) :
    Database.store.execute v page d = (.ok payload, d) ∨ v.Overruns page d := by
  have hlength : rows.length < 2 ^ 63 := by
    rw [hperm.length_eq]
    exact Nat.lt_of_le_of_lt (List.length_filter_le _ _) hfew
  rw [← Page.page_eq_cut page hlength] at hpayload
  apply (execute_shows hplan d).imp_left
  rintro ⟨result, hshows, hresult⟩
  rw [hresult, hshows.unique (.rows hperm hsorted hpayload)]

/--
Without groups each page of a view is a page of one list, the rows of its scope in order, so that
pages which follow each other show what there is up to their end. With groups all pages are one.
-/
theorem execute_pages (v : View) (d : Database) (hfew : (d.table v.grain).rows.length < 2 ^ 63) :
    (v.ByRow → ∀ p, v.plan {} = .ok p →
      ∃ rows : List Row, rows.Perm (v.base d) ∧ rows.Pairwise v.Before ∧
        (∀ page, ∃ payload, v.Presents (page.cut rows) payload ∧
          (Database.store.execute v page d = (.ok payload, d) ∨ v.Overruns page d)) ∧
        ∀ size n whole payloads, (n - 1) * size.toNat < 2 ^ 64 →
          (Database.store.execute v {} d).1 = .ok whole →
          (Page.sheets size n).mapM (fun page => (Database.store.execute v page d).1) =
            .ok payloads →
          payloads.flatMap Payload.entries = whole.entries.take (n * size.toNat)) ∧
    (¬v.ByRow → ∀ page,
      v.plan page = v.plan {} ∧
        Database.store.execute v page d = Database.store.execute v {} d ∧
        ∀ payload, (Database.store.execute v page d).1 = .ok payload →
          ∃ points x y a, payload = .chart points x y a false) := by
  constructor
  · intro hbyRow p hplan
    obtain ⟨rows, hperm, hsorted⟩ := v.exists_rows d
    have hpages : ∀ page, ∃ payload, v.Presents (page.cut rows) payload ∧
        (Database.store.execute v page d = (.ok payload, d) ∨ v.Overruns page d) := by
      intro page
      obtain ⟨p', payload, hplan', hpayload⟩ := plan_of_page hplan hbyRow page (page.cut rows)
      exact ⟨payload, hpayload, execute_of_presents hplan' hfew hperm hsorted hpayload⟩
    have hshown : ∀ page payload, (Database.store.execute v page d).1 = .ok payload →
        v.Presents (page.cut rows) payload := by
      intro page payload hok
      obtain ⟨payload', hpayload, h | h⟩ := hpages page
      · rw [h, Except.ok.injEq] at hok
        exact hok ▸ hpayload
      · exact absurd hok (h.error payload)
    refine ⟨rows, hperm, hsorted, hpages, ?_⟩
    -- entries are made row by row, so pages of rows are pages of entries
    intro size n whole payloads hn hwhole hpayloads
    rw [← Page.flatMap_sheets size hn]
    apply flatMap_of_mapM hpayloads
    intro page _ payload hpayload
    exact Presents.entries_cut (hshown {} whole hwhole) (hshown page payload hpayload)
  · intro hbyRow page
    have hplan := plan_page_of_groups hbyRow page {}
    refine ⟨hplan, ?_, ?_⟩
    · rw [TabularStore.execute, TabularStore.execute, hplan]
    · intro payload hok
      cases hp : v.plan page with
      | error e =>
        rw [TabularStore.execute, hp] at hok
        contradiction
      | ok p =>
        rcases execute_shows hp d with ⟨result, hshows, h⟩ | h
        · rw [h] at hok
          simp only at hok
          obtain ⟨_, _, x, y, _, points, _, _, _, _, _, hpayload⟩ :=
            (hok ▸ hshows).exists_series hbyRow
          exact ⟨points, x, y, v.aggregation, hpayload⟩
        · exact absurd hok (h.error payload)

def vacantRow (id : Int64) (date : Value) (count : Int64) : Row :=
  Table.kept .area (Table.valueFor
    ⟨[(runColumn, .integer 1), (dateColumn, date), ("vacant_house_count", .integer count)]⟩ id)

theorem holds_vacantRow (id : Int64) (date : Value) (count : Int64) :
    Table.Holds .area (vacantRow id date count) :=
  Table.holds_kept rfl

def vacantTable : Table .area :=
  (((Table.empty.add _ (holds_vacantRow 1 (.text "2021-04-01") 5)).add _
    (holds_vacantRow 2 .null 7)).add _ (holds_vacantRow 3 (.text "2020-04-01") 2)).add _
    (holds_vacantRow 4 (.text "2020-04-01") 4)

def vacantDatabase : Database :=
  ({} : Database).withTable .area vacantTable

def vacantBars : View where
  run := 1
  style := .bar
  grain := .area
  parameters := [.column .xAxis dateColumn, .column .yAxis "vacant_house_count"]

/-- The rows as bars stand: first that without a date, then by date, on one date by id. -/
def vacantRows : List Row :=
  [vacantRow 2 .null 7, vacantRow 3 (.text "2020-04-01") 2, vacantRow 4 (.text "2020-04-01") 4,
    vacantRow 1 (.text "2021-04-01") 5]

theorem perm_vacantRows : vacantRows.Perm (vacantBars.base vacantDatabase) := by
  have hrows : (vacantDatabase.table vacantBars.grain).rows =
      [vacantRow 1 (.text "2021-04-01") 5, vacantRow 2 .null 7, vacantRow 3 (.text "2020-04-01") 2,
        vacantRow 4 (.text "2020-04-01") 4] := rfl
  have hadmits : ∀ row ∈ (vacantDatabase.table vacantBars.grain).rows,
      vacantBars.scope.admits row = true := by
    decide +kernel
  rw [base, List.filter_eq_self.2 hadmits, hrows]
  exact @List.perm_append_comm _ [_, _, _] [_]

theorem sorted_vacantRows : vacantRows.Pairwise vacantBars.Before := by
  decide +kernel

theorem plan_vacantBars (page : Page) :
    ∃ x y, vacantBars.axis .xAxis = .ok x ∧ vacantBars.axis .yAxis = .ok y ∧
      vacantBars.plan page = .ok ⟨.area, .points x y .average
        (vacantBars.selection [x.name, y.name] page)⟩ :=
  ⟨_, _, rfl, rfl, rfl⟩

theorem withinLimits_vacantBars {page : Page} (hpage : page ∈ {} :: Page.sheets 3 2) {p : Plan}
    (hplan : vacantBars.plan page = .ok p) : p.WithinLimits := by
  have hsheets : Page.sheets 3 2 = [⟨some 3, some 0⟩, ⟨some 3, some 3⟩] := rfl
  simp only [hsheets, List.mem_cons, List.not_mem_nil, or_false] at hpage
  rcases hpage with rfl | rfl | rfl
  all_goals
    cases hplan
    decide +kernel

theorem execute_pages_vacantBars :
    (vacantDatabase.table vacantBars.grain).rows.length < 2 ^ 63 ∧ vacantBars.ByRow ∧
      ∃ x y,
        let chart (points : List Point) : Payload := .chart points x y .average true
        let whole := chart [⟨.null, .integer 7⟩, ⟨.text "2020-04-01", .integer 2⟩,
          ⟨.text "2020-04-01", .integer 4⟩, ⟨.text "2021-04-01", .integer 5⟩]
        let pages := [chart [⟨.null, .integer 7⟩, ⟨.text "2020-04-01", .integer 2⟩,
          ⟨.text "2020-04-01", .integer 4⟩], chart [⟨.text "2021-04-01", .integer 5⟩]]
        (Database.store.execute vacantBars {} vacantDatabase).1 = .ok whole ∧
          (Page.sheets 3 2).mapM (fun page =>
            (Database.store.execute vacantBars page vacantDatabase).1) = .ok pages ∧
          pages.flatMap Payload.entries = whole.entries := by
  have hfew : (vacantDatabase.table vacantBars.grain).rows.length < 2 ^ 63 := by decide
  obtain ⟨hbyRow, _⟩ := execute_pages vacantBars vacantDatabase hfew
  obtain ⟨x, y, hx, hy, hplan⟩ := plan_vacantBars {}
  obtain ⟨rows, hperm, hsorted, hpages, hjoined⟩ := hbyRow (.inr rfl) _ hplan
  obtain rfl := eq_of_before hsorted sorted_vacantRows (hperm.trans perm_vacantRows.symm)
  have hshown : ∀ page ∈ {} :: Page.sheets 3 2,
      (Database.store.execute vacantBars page vacantDatabase).1 = .ok (.chart
        ((page.cut vacantRows).map fun r => ⟨r.cell x.name, r.cell y.name⟩) x y .average true) := by
    intro page hpage
    obtain ⟨payload, hpayload, h | ⟨p, _, hplan, hlimits, _⟩⟩ := hpages page
    · obtain rfl := hpayload.unique (.points rfl hx hy rfl)
      rw [h]
      rfl
    · exact absurd (withinLimits_vacantBars hpage hplan) hlimits
  rw [List.forall_mem_cons] at hshown
  cases hx
  cases hy
  have hwhole := hshown.1
  have hsheets := mapM_eq_ok hshown.2
  exact ⟨hfew, .inr rfl, _, _, hwhole, hsheets, hjoined 3 2 _ _ (by decide) hwhole hsheets⟩

/-- With a thousand terms a table is not shown, although it has a row. -/
theorem execute_householdTable_replicate :
    let v := householdTable (.replicate 999 isOfRun)
    (∃ p, v.plan {} = .ok p) ∧ v.layout? = some .table ∧
      (sizeDatabase.table v.grain).rows.length < 2 ^ 63 ∧ v.base sizeDatabase = [sizeRow] ∧
        ∃ e, Database.store.execute v {} sizeDatabase = (.error e, sizeDatabase) := by
  have hterms := isHarmless_replicate 999
  obtain ⟨c, hc, _⟩ := (householdTable (.replicate 999 isOfRun)).ofRun_scope.predicate_eq
  have hhigh : heightLimit < c.height := by
    rw [height_replicate hc]
    decide
  obtain ⟨_, hplan⟩ := plan_householdTable (.replicate 999 isOfRun) {}
  obtain ⟨_, e, _, _, h⟩ := overruns_householdTable hc hhigh sizeDatabase
  exact ⟨⟨_, hplan⟩, rfl, by decide, base_householdTable hterms, _, h⟩

end View

end Vacancy
