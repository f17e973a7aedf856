import Snowflake.Account.Handle
import Snowflake.Generator.Waiting

/-!
Users and posts, and the drafts that become one when a generator gives them an identifier.
-/

namespace Snowflake

structure User where
  id : UserId
  handle : Handle
  deriving DecidableEq

structure NewUser where
  handle : Handle
  deriving DecidableEq

structure Post where
  id : PostId
  author : UserId
  content : String
  deriving DecidableEq

structure NewPost where
  author : UserId
  content : String
  deriving DecidableEq

namespace User

/-- The handle until now, and the user with the new one. -/
def rename (u : User) (handle : Handle) : Handle × User :=
  (u.handle, { u with handle })

def describe (u : User) : String :=
  Record.line "User" [("id", u.id.describe), ("handle", u.handle.describe)]

end User

namespace NewUser

def create (n : NewUser) (g : Generator) (clock : Nat → UInt64) (elapsed : Nat → Span)
    (limit : Nat) : Option (Outcome User) :=
  (g.mint .user clock elapsed limit).map (·.map fun id => ⟨id, n.handle⟩)

def describe (n : NewUser) : String :=
  Record.line "CreateUser" [("handle", n.handle.describe)]

end NewUser

namespace Post

def describe (p : Post) : String :=
  Record.line "Post"
    [("id", p.id.describe), ("author", p.author.describe), ("content", Quoted.quote p.content)]

end Post

namespace NewPost

def create (n : NewPost) (g : Generator) (clock : Nat → UInt64) (elapsed : Nat → Span)
    (limit : Nat) : Option (Outcome Post) :=
  (g.mint .post clock elapsed limit).map (·.map fun id => ⟨id, n.author, n.content⟩)

def describe (n : NewPost) : String :=
  Record.line "CreatePost" [("author", n.author.describe), ("content", Quoted.quote n.content)]

end NewPost

end Snowflake
