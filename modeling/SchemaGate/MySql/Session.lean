import SchemaGate.Dialogue
import SchemaGate.MySql.Cell
import SchemaGate.MySql.Charset
/-!
Sessions with a server over the wire. The server's replies are prepared in order of the queries it
receives, whatever session they come on. A reply may consist of several result sets, whose rows are
joined; the first that is no result makes the query fail. Once the server has closed a session, no
query of that session reaches it.
-/

set_option autoImplicit false

namespace SchemaGate.MySql

/-- A column as the wire states it, its type a byte. -/
structure Header where
  name : String
  otherName : String
  code : Nat
  unsigned : Bool
  binary : Bool
  deriving DecidableEq, Repr

namespace Header

def hexByte (n : Nat) : String :=
  String.ofList (Nat.digitChar (n / 16 % 16) :: [Nat.digitChar (n % 16)])

/-- The column a header states; another name takes the place of the first. -/
def column (h : Header) : Except SqlFault Column :=
  match ColumnType.ofCode? h.code with
  | some type =>
    .ok ⟨if h.otherName.isEmpty then h.name else h.otherName, type, h.unsigned, h.binary⟩
  | none => .error (.protocol ("unknown column type 0x" ++ hexByte h.code))

end Header

inductive ResultSet where
  | done
  | error (e : ServerError)
  | close
  | table (headers : List Header) (rows : List (List (Option Text.Bytes)))
  deriving DecidableEq, Repr

/-- A server and the session open with it. -/
structure Session where
  /-- The socket the server listens on, if there is a server at all. -/
  socket : Option String
  /-- With this error the server turns every session down. -/
  rejection : Option ServerError
  /-- The replies that are left. -/
  replies : List (List ResultSet)
  /-- The queries received, in order. -/
  received : List String
  /-- Whether the server has closed the session. -/
  closed : Bool
  deriving DecidableEq, Repr

namespace Session

def prepared (socket : String) (rejection : Option ServerError)
    (replies : List (List ResultSet)) : Session := ⟨some socket, rejection, replies, [], false⟩

/-- No server: nobody listens anywhere. -/
def absent : Session := ⟨none, none, [], [], false⟩

def rowsOf : ResultSet → Except SqlFault (List Row)
  | .done => .ok []
  | .error e => .error (.server e)
  | .close => .error .closed
  | .table headers rows =>
    (headers.mapM Header.column).map fun columns => rows.map (readRow columns)

def readReply (reply : List ResultSet) : Except SqlFault (List Row) :=
  (reply.mapM rowsOf).map List.flatten

/-- Whether a reply leaves the session closed. -/
def closes (reply : List ResultSet) : Bool :=
  match readReply reply with
  | .error .closed => true
  | _ => false

def openAt (address : Address) (s : Session) : Except ConnectionFault Unit :=
  if !isCharset address.charset then .error (.unknownCharset address.charset)
  else
    match address.collation.filter fun name => !isCollation name with
    | some name => .error (.unknownCollation name)
    | none =>
      if s.socket.isNone || address.socket != s.socket then
        .error (if address.socket.isSome then .noSocket else .unreachable)
      else if address.encryption.isMandatory then .error .noEncryption
      else
        match s.rejection with
        | some e => .error (.rejected e)
        | none => .ok ()

def opened : Event := ⟨.debug, "Connection established", []⟩

def acquire (target : Config.Connection) (s : Session) : Except Failure (List Event) × Session :=
  match target.address with
  | .error fault => (.error (.config fault), s)
  | .ok address =>
    match openAt address s with
    | .error fault => (.error (.connection fault), s)
    | .ok () => (.ok [opened], { s with closed := false })

def answer (sql : String) (s : Session) : Except Failure (List Row) × Session :=
  if s.closed then (.error (.sql .closed), s)
  else
    let reply := s.replies.headD []
    ((readReply reply).mapError .sql,
      { s with
        replies := s.replies.drop 1
        received := s.received ++ [sql]
        closed := closes reply })

def server : Server Session := ⟨acquire, answer⟩

end Session

end SchemaGate.MySql
