import SpecterCloud.Api.AuthRoutes

/-! Answers as a client sees them: a status and a body. -/

namespace SpecterCloud.Api

open SpecterCloud.Models

/-- The JSON of a body. -/
inductive ResponseBody
  | detail (text : String)
  | loginResponse (user : UserView)
deriving DecidableEq

structure HttpAnswer where
  statusCode : Nat
  body : ResponseBody
deriving DecidableEq

/-- `global_exception_handler`. -/
def globalExceptionHandler : HttpAnswer := ⟨500, .detail "Internal Server Error"⟩

/-- What the framework sends for an exception. -/
def exceptionAnswer : Raised → HttpAnswer
  | .httpException statusCode detail _ => ⟨statusCode, .detail detail⟩
  | _ => globalExceptionHandler

/-- The answer of the login route. -/
def loginAnswer : Except Raised LoginResponse → HttpAnswer
  | .ok response => ⟨200, .loginResponse response.user⟩
  | .error error => exceptionAnswer error

/-- The answer to bad credentials. -/
def invalidCredentials : HttpAnswer := ⟨401, .detail "Invalid credentials"⟩

/-- The answer to a login on a locked account. -/
def accountLocked : HttpAnswer :=
  ⟨423, .detail "Account temporarily locked due to repeated failed attempts"⟩

end SpecterCloud.Api
