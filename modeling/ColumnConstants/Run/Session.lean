import ColumnConstants.Run.Generate

namespace ColumnConstants

structure Session where
  disk      : Disk
  directory : String
  printed   : String
  log       : List Record

namespace Session

def write (s : Session) (path text : String) : Except Fault Unit × Session :=
  match s.disk.write path text with
  | .ok disk     => (.ok (), { s with disk := disk })
  | .error fault => (.error fault, s)

def print (s : Session) (text : String) : Session :=
  { s with printed := s.printed ++ text }

def record (s : Session) (r : Record) : Session :=
  { s with log := s.log ++ [r] }

def recordAll (s : Session) (rs : List Record) : Session :=
  { s with log := s.log ++ rs }

end Session

instance : Host (StateM Session) where
  currentDirectory := do return .ok (← get).directory
  read path        := do return (← get).disk.read path
  write path text  := modifyGet (·.write path text)
  print text       := modify (·.print text)
  record r         := modify (·.record r)

end ColumnConstants
