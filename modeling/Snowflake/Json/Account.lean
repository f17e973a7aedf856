import Snowflake.Account.User
import Snowflake.Json.Identity
import Snowflake.Json.Record

/-!
Users and posts in JSON. All fields have to be given, other fields are passed over.
-/

namespace Snowflake

open Json

namespace Handle

def ofHead : Head → Except Mismatch Handle :=
  Scalar.text "a string" fun s => (Handle.read s).mapError InvalidHandle.message

def ofJson (s : String) : Except Fault Handle :=
  document (scalar ofHead) s

def toJson (h : Handle) : List Char :=
  Literal.write h.text

end Handle

namespace User

structure Draft where
  id : Option UserId
  handle : Option Handle

namespace Draft

def idField : RecordField Draft where
  name := "id"
  isSet d := d.id.isSome
  set head d := do pure { d with id := some (← Id.ofHead head) }

def handleField : RecordField Draft where
  name := "handle"
  isSet d := d.handle.isSome
  set head d := do pure { d with handle := some (← Handle.ofHead head) }

end Draft

def layout : Layout Draft User where
  name := "User"
  fields := [Draft.idField, Draft.handleField]
  passesOver := true
  mayEndEarly := false
  blank := ⟨none, none⟩
  finish d := do pure ⟨← require "id" d.id, ← require "handle" d.handle⟩

def ofJson (s : String) : Except Fault User :=
  document layout.read s

def members (u : User) : List Member :=
  [("id", u.id.toJson), ("handle", u.handle.toJson)]

def toJson (u : User) : List Char :=
  Object.line u.members

end User

namespace NewUser

structure Draft where
  handle : Option Handle

namespace Draft

def handleField : RecordField Draft where
  name := "handle"
  isSet d := d.handle.isSome
  set head _ := do pure ⟨some (← Handle.ofHead head)⟩

end Draft

def layout : Layout Draft NewUser where
  name := "CreateUser"
  fields := [Draft.handleField]
  passesOver := true
  mayEndEarly := false
  blank := ⟨none⟩
  finish d := do pure ⟨← require "handle" d.handle⟩

def ofJson (s : String) : Except Fault NewUser :=
  document layout.read s

def members (n : NewUser) : List Member :=
  [("handle", n.handle.toJson)]

def toJson (n : NewUser) : List Char :=
  Object.line n.members

end NewUser

namespace Post

structure Draft where
  id : Option PostId
  author : Option UserId
  content : Option String

namespace Draft

def idField : RecordField Draft where
  name := "id"
  isSet d := d.id.isSome
  set head d := do pure { d with id := some (← Id.ofHead head) }

def authorField : RecordField Draft where
  name := "author"
  isSet d := d.author.isSome
  set head d := do pure { d with author := some (← Id.ofHead head) }

def contentField : RecordField Draft where
  name := "content"
  isSet d := d.content.isSome
  set head d := do pure { d with content := some (← Scalar.string head) }

end Draft

def layout : Layout Draft Post where
  name := "Post"
  fields := [Draft.idField, Draft.authorField, Draft.contentField]
  passesOver := true
  mayEndEarly := false
  blank := ⟨none, none, none⟩
  finish d := do
    pure ⟨← require "id" d.id, ← require "author" d.author, ← require "content" d.content⟩

def ofJson (s : String) : Except Fault Post :=
  document layout.read s

def members (p : Post) : List Member :=
  [("id", p.id.toJson), ("author", p.author.toJson), ("content", Literal.write p.content)]

def toJson (p : Post) : List Char :=
  Object.line p.members

end Post

namespace NewPost

structure Draft where
  author : Option UserId
  content : Option String

namespace Draft

def authorField : RecordField Draft where
  name := "author"
  isSet d := d.author.isSome
  set head d := do pure { d with author := some (← Id.ofHead head) }

def contentField : RecordField Draft where
  name := "content"
  isSet d := d.content.isSome
  set head d := do pure { d with content := some (← Scalar.string head) }

end Draft

def layout : Layout Draft NewPost where
  name := "CreatePost"
  fields := [Draft.authorField, Draft.contentField]
  passesOver := true
  mayEndEarly := false
  blank := ⟨none, none⟩
  finish d := do pure ⟨← require "author" d.author, ← require "content" d.content⟩

def ofJson (s : String) : Except Fault NewPost :=
  document layout.read s

def members (n : NewPost) : List Member :=
  [("author", n.author.toJson), ("content", Literal.write n.content)]

def toJson (n : NewPost) : List Char :=
  Object.line n.members

end NewPost

end Snowflake
