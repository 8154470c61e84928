import FluentSql.Record
import FluentSql.Row.Decode

/-! Entities. A user account has an identity that is given by the database and a note that is not
stored; a scheduled event has one field of every kind of value. -/
namespace FluentSql

structure User where
  id : Int64
  name : String
  email : Option String
  note : String
  deriving DecidableEq

instance : FromRow User where
  fromRow row := do
    let id ← row.get "id"
    let name ← row.get "user_name"
    let email ← row.get "email"
    pure ⟨id, name, email, ""⟩

instance : Record User where
  fields user := [("user_name", toValue user.name), ("email", toValue user.email)]

structure Event where
  title : String
  key : Int64
  rank : Int32
  price : Decimal
  ratio : Double
  active : Bool
  data : List UInt8
  day : Date
  clock : Time
  starts : DateTime
  ends : Option Timestamp
  details : Json
  uid : Uuid
  score : Option Single
  small : Option Int16
  wide : UInt32
  deriving DecidableEq

instance : FromRow Event where
  fromRow row := do
    let title ← row.get "title"
    let key ← row.get "event_id"
    let rank ← row.get "order"
    let price ← row.get "price"
    let ratio ← row.get "ratio"
    let active ← row.get "active"
    let data ← row.get "data"
    let day ← row.get "day"
    let clock ← row.get "at"
    let starts ← row.get "starts"
    let ends ← row.get "ends"
    let details ← row.get "meta"
    let uid ← row.get "uid"
    let score ← row.get "score"
    let small ← row.get "small"
    let wide ← row.get "wide"
    pure {
      title, key, rank, price, ratio, active, data, day, clock, starts, ends, details, uid, score,
      small, wide }

instance : Record Event where
  fields event := [
    ("title", toValue event.title), ("order", toValue event.rank), ("price", toValue event.price),
    ("ratio", toValue event.ratio), ("active", toValue event.active), ("data", toValue event.data),
    ("day", toValue event.day), ("at", toValue event.clock), ("starts", toValue event.starts),
    ("ends", toValue event.ends), ("meta", toValue event.details), ("uid", toValue event.uid),
    ("score", toValue event.score), ("small", toValue event.small), ("wide", toValue event.wide)]

end FluentSql
