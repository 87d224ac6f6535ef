namespace JavaOutline.CommandLine

/-!
# The sample

The source that is outlined when no path is given.
-/

/-- What the sample is called in reports. -/
def samplePath : String := "<sample>"

/-- The lines of the sample. -/
def sampleLines : List String := [
  "",
  "package com.acme.demo;",
  "",
  "import java.util.*;",
  "",
  "public final class UserService \x7b",
  "    private final UserRepository repo = new UserRepository();",
  "    private int created, deleted;",
  "",
  "    public UserService() \x7b",
  "        System.out.println(\"UserService constructed\");",
  "    \x7d",
  "",
  "    public User addUser(String name) \x7b",
  "        repo.save(name);",
  "        created++;",
  "        return new User(StringUtils.trim(name));",
  "    \x7d",
  "",
  "    public User addUser(String name, int age) throws IllegalArgumentException \x7b",
  "        return addUser(name);",
  "    \x7d",
  "",
  "    public List<String> findAll() \x7b",
  "        return repo.findAll();",
  "    \x7d",
  "",
  "    static class StringUtils \x7b",
  "        static String trim(String s) \x7b return s.trim(); \x7d",
  "    \x7d",
  "\x7d",
  "",
  "interface UserRepository \x7b",
  "    int MAX_USERS = 100;",
  "    void save(String name);",
  "    List<String> findAll();",
  "\x7d",
  "",
  "enum Role \x7b",
  "    ADMIN, GUEST;",
  "",
  "    boolean canWrite() \x7b return this == ADMIN; \x7d",
  "\x7d"]

/-- The sample, with a line feed after every line. -/
def sampleSource : String :=
  String.join (sampleLines.map (fun line => line ++ "\n"))

end JavaOutline.CommandLine
