import Retrieval.Bytes
import Retrieval.Http.Method

/-! The request for one resource. -/
namespace Retrieval

structure Request where
  /-- An absolute URL, a path, or a text relative to the base URL. -/
  location : String
  method : Http.Method := .get
  contentType : Option String := none
  /-- Without one, an empty body is sent. -/
  body : Option Bytes := none

end Retrieval
