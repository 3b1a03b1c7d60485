import Vacancy.Json.Fields

/-!
The columns of the two detail tables. A row of detail stands for one building or for one area. Only
names from here are ever written as identifiers of a statement.
-/

namespace Vacancy

inductive ColumnType where
  | text
  | integer
  | float
  | date
  | boolean
  deriving DecidableEq, Inhabited

namespace ColumnType

def name : ColumnType → String
  | .text => "text"
  | .integer => "integer"
  | .float => "float"
  | .date => "date"
  | .boolean => "boolean"

def ofName? : String → Option ColumnType
  | "text" => some .text
  | "integer" => some .integer
  | "float" => some .float
  | "date" => some .date
  | "boolean" => some .boolean
  | _ => none

def toJson (t : ColumnType) : Json :=
  .text t.name

def ofJson? (j : Json) : Option ColumnType :=
  j.case?.bind ofName?

def storage : ColumnType → String
  | .text | .date => "TEXT"
  | .integer | .boolean => "INTEGER"
  | .float => "REAL"

def isNumeric : ColumnType → Bool
  | .integer | .float => true
  | _ => false

end ColumnType

structure Column where
  name : String
  label : String
  type : ColumnType
  /-- The unit of measure behind a displayed number, empty if there is none. -/
  measure : String

namespace Column

/-- Stored as a fraction of one, displayed in percent. -/
def isPercent (c : Column) : Bool :=
  c.measure == "%"

def toJson (c : Column) : Json :=
  .object [("name", .text c.name), ("label", .text c.label), ("type", c.type.toJson),
    ("unit", .text c.measure), ("groupable", .bool true)]

end Column

inductive Grain where
  | building
  | area
  deriving DecidableEq, Inhabited

def idColumn : String := "id"

def runColumn : String := "data_set_result_id"

def dateColumn : String := "reference_date"

def areaColumn : String := "area_group"

def structuralColumns : List String :=
  [idColumn, runColumn, dateColumn, areaColumn]

def areaColumns : List Column :=
  [ ⟨"area", "地域面積", .float, "m^2"⟩,
    ⟨"area_group", "地域名称", .text, ""⟩,
    ⟨"reference_date", "推定日", .date, ""⟩,
    ⟨"young_population_ratio", "若年層率（15歳以下人口）", .float, "%"⟩,
    ⟨"elderly_population_ratio", "高齢者率（65歳以上人口）", .float, "%"⟩,
    ⟨"total_building_count", "住宅数", .integer, "棟"⟩,
    ⟨"predicted_probability", "推定空き家割合", .float, "%"⟩,
    ⟨"vacant_house_count", "推定空き家数", .integer, "棟"⟩ ]

def buildingColumns : List Column :=
  [ ⟨"area_group", "地域名称", .text, ""⟩,
    ⟨"normalized_address", "正規化住所", .text, ""⟩,
    ⟨"household_code", "世帯コード", .text, ""⟩,
    ⟨"reference_date", "推定日", .date, ""⟩,
    ⟨"household_size", "世帯人数", .integer, "人"⟩,
    ⟨"members_under_15", "15歳未満人数", .integer, "人"⟩,
    ⟨"members_15_to_64", "15歳以上64歳以下人数", .integer, "人"⟩,
    ⟨"percentage_under_15", "15歳未満構成比", .float, "%"⟩,
    ⟨"percentage_15_to_64", "15歳以上64歳以下構成比", .float, "%"⟩,
    ⟨"members_over_65", "65歳以上人数", .integer, "人"⟩,
    ⟨"percentage_over_65", "65歳以上構成比", .float, "%"⟩,
    ⟨"predicted_probability", "空き家推定確率", .float, "%"⟩,
    ⟨"predicted_label", "空き家推定結果", .boolean, ""⟩,
    ⟨"gender_ratio", "男女比", .float, ""⟩,
    ⟨"water_disconnection_flag", "閉栓フラグ", .boolean, ""⟩,
    ⟨"max_water_usage", "最大使用水量", .integer, "L"⟩,
    ⟨"avg_water_usage", "平均使用水量", .integer, "L"⟩,
    ⟨"min_water_usage", "最小使用水量", .integer, "L"⟩,
    ⟨"total_water_usage", "合計使用水量", .integer, "L"⟩,
    ⟨"water_supply_number", "水道番号", .text, ""⟩,
    ⟨"water_supply_source_info", "水道名寄せ元情報", .text, ""⟩,
    ⟨"structure_name", "構造名称", .text, ""⟩,
    ⟨"registration_date", "登記日付", .date, ""⟩,
    ⟨"registration_source_info", "登記名寄せ元情報", .text, ""⟩,
    ⟨"vacant_house_id", "空き家調査ID", .text, ""⟩,
    ⟨"vacant_house_address", "空き家調査住所", .text, ""⟩,
    ⟨"measuredheight", "標高", .integer, "m"⟩,
    ⟨"rank", "洪水浸水想定区域　浸水ランク", .integer, ""⟩,
    ⟨"depth", "洪水浸水想定区域　浸水深", .integer, "m"⟩,
    ⟨"duration", "洪水浸水想定区域　継続時間", .integer, "時間"⟩,
    ⟨"floors_above_ground", "地上階数", .integer, "階"⟩,
    ⟨"name", "名称", .text, ""⟩,
    ⟨"floors_below_ground", "地下階数", .integer, "階"⟩,
    ⟨"inland_flooding_risk_rank", "内水浸水リスクランク", .integer, ""⟩,
    ⟨"inland_flooding_risk_depth", "内水氾濫リスク深さ", .integer, "m"⟩,
    ⟨"landslide_risk_desc", "土砂災害リスク　現象区分", .text, ""⟩,
    ⟨"river_flooding_risk_desc", "指定河川名称", .text, ""⟩,
    ⟨"river_flooding_risk_rank", "浸水ランク", .integer, ""⟩,
    ⟨"river_flooding_risk_depth", "浸水深", .integer, "m"⟩ ]

namespace Grain

def name : Grain → String
  | .building => "building"
  | .area => "area"

def ofName? : String → Option Grain
  | "building" => some .building
  | "area" => some .area
  | _ => none

def toJson (g : Grain) : Json :=
  .text g.name

def ofJson? (j : Json) : Option Grain :=
  j.case?.bind ofName?

def table : Grain → String
  | .building => "data_set_detail_buildings"
  | .area => "data_set_detail_areas"

def columns : Grain → List Column
  | .building => buildingColumns
  | .area => areaColumns

def column? (g : Grain) (name : String) : Option Column :=
  g.columns.find? (·.name == name)

def has (g : Grain) (name : String) : Bool :=
  structuralColumns.contains name || (g.column? name).isSome

@[simp] theorem ofName?_name (g : Grain) : ofName? g.name = some g := by
  cases g <;> rfl

theorem name_of_column? {g : Grain} {name : String} {c : Column} (h : g.column? name = some c) :
    c.name = name := by
  simpa using List.find?_some h

end Grain

end Vacancy
