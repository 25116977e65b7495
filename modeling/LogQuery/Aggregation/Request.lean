import LogQuery.Json.Record
import LogQuery.Time.Range

namespace LogQuery

/-! A request for a chart. All its parts may be left out. -/

structure AggregationOptions where
  sliceBy : String := ""
  sizeByOperation : String := ""
  sizeByField : String := ""
  horizontalAxisOperation : String := ""
  horizontalAxisField : String := ""
  horizontalAxisOrder : String := ""
  horizontalAxisLimit : String := ""
  verticalAxisOperation : String := ""
  verticalAxisField : String := ""
  breakDownByFields : List String := []
  breakDownByFilters : List String := []
  deriving DecidableEq, Repr

structure AggregationRequest where
  query : String := ""
  chart : String := ""
  times : TimeRange := ⟨0, 0⟩
  options : AggregationOptions := {}
  deriving DecidableEq, Repr

/-! ## Reading

The order of the fields is the order of the values when a part is written as an
array. -/

open Json (Decoder FieldDecoder)

def stringField (key : String) (write : α → String → α) : FieldDecoder α where
  key := key
  decode record tokens := do
    let (value, rest) ← Decoder.string tokens
    .ok (write record value, rest)

def integerField (key : String) (write : α → Int → α) : FieldDecoder α where
  key := key
  decode record tokens := do
    let (value, rest) ← Decoder.integer tokens
    .ok (write record value, rest)

def stringsField (key : String) (write : α → List String → α) : FieldDecoder α where
  key := key
  decode record tokens := do
    let (value, rest) ← Decoder.list Decoder.string tokens
    .ok (write record value, rest)

/-- A part starts from its default even if the record has another value. -/
def recordField (key : String) (fields : List (FieldDecoder β)) (default : β)
    (write : α → β → α) : FieldDecoder α where
  key := key
  decode record tokens := do
    let (value, rest) ← Json.Record.decode fields default tokens
    .ok (write record value, rest)

def timesFields : List (FieldDecoder TimeRange) :=
  [integerField "timeStart" fun times first => { times with first },
    integerField "timeEnd" fun times last => { times with last }]

def optionsFields : List (FieldDecoder AggregationOptions) :=
  [stringField "sliceBy" fun options sliceBy => { options with sliceBy },
    stringField "sizeByOperation" fun options sizeByOperation =>
      { options with sizeByOperation },
    stringField "sizeByField" fun options sizeByField => { options with sizeByField },
    stringField "horizontalAxisOperation" fun options horizontalAxisOperation =>
      { options with horizontalAxisOperation },
    stringField "horizontalAxisField" fun options horizontalAxisField =>
      { options with horizontalAxisField },
    stringField "horizontalAxisOrder" fun options horizontalAxisOrder =>
      { options with horizontalAxisOrder },
    stringField "horizontalAxisLimit" fun options horizontalAxisLimit =>
      { options with horizontalAxisLimit },
    stringField "verticalAxisOperation" fun options verticalAxisOperation =>
      { options with verticalAxisOperation },
    stringField "verticalAxisField" fun options verticalAxisField =>
      { options with verticalAxisField },
    stringsField "breakDownByFields" fun options breakDownByFields =>
      { options with breakDownByFields },
    stringsField "breakDownByFilters" fun options breakDownByFilters =>
      { options with breakDownByFilters }]

def requestFields : List (FieldDecoder AggregationRequest) :=
  [stringField "query" fun request query => { request with query },
    stringField "chart" fun request chart => { request with chart },
    recordField "times" timesFields ⟨0, 0⟩ fun request times => { request with times },
    recordField "options" optionsFields {} fun request options =>
      { request with options }]

def AggregationRequest.read (body : String) : Except Json.BodyFault AggregationRequest :=
  Json.Record.read requestFields {} body

end LogQuery
