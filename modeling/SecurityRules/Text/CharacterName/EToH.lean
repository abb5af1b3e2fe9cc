/-!
# Names of characters from E to H

An outline in words: a lower-case letter starts each name and says how many
words the name shares with the one before it, `a` for none, `b` for one and so
on. The words that it does not share follow.
-/

namespace SecurityRules.CharacterName

def namesFromEToH : String :=
  "aE-MAIL SYMBOL aEAGLE aEAR bOF MAIZE cRICE bWITH HEARING AID aEARTH bGLOBE AMERICAS
    cASIA-AUSTRALIA cEUROPE-AFRICA bGROUND aEAST SYRIAC CROSS aEDITORIAL CORONIS aEGG aEGYPTIAN
    HIEROGLYPH A001 cA002 cA003 cA004 cA005 cA005A cA006 cA006A cA006B cA007 cA008 cA009 cA010
    cA011 cA012 cA013 cA014 cA014A cA015 cA016 cA017 cA017A cA018 cA019 cA020 cA021 cA022 cA023
    cA024 cA025 cA026 cA027 cA028 cA029 cA030 cA031 cA032 cA032A cA033 cA034 cA035 cA036 cA037
    cA038 cA039 cA040 cA040A cA041 cA042 cA042A cA043 cA043A cA044 cA045 cA045A cA046 cA047
    cA048 cA049 cA050 cA051 cA052 cA053 cA054 cA055 cA056 cA057 cA058 cA059 cA060 cA061 cA062
    cA063 cA064 cA065 cA066 cA067 cA068 cA069 cA070 cAA001 cAA002 cAA003 cAA004 cAA005 cAA006
    cAA007 cAA007A cAA007B cAA008 cAA009 cAA010 cAA011 cAA012 cAA013 cAA014 cAA015 cAA016 cAA017
    cAA018 cAA019 cAA020 cAA021 cAA022 cAA023 cAA024 cAA025 cAA026 cAA027 cAA028 cAA029 cAA030
    cAA031 cAA032 cB001 cB002 cB003 cB004 cB005 cB005A cB006 cB007 cB008 cB009 cBEGIN SEGMENT
    cC001 cC002 cC002A cC002B cC002C cC003 cC004 cC005 cC006 cC007 cC008 cC009 cC010 cC010A
    cC011 cC012 cC013 cC014 cC015 cC016 cC017 cC018 cC019 cC020 cC021 cC022 cC023 cC024 cD001
    cD002 cD003 cD004 cD005 cD006 cD007 cD008 cD008A cD009 cD010 cD011 cD012 cD013 cD014 cD015
    cD016 cD017 cD018 cD019 cD020 cD021 cD022 cD023 cD024 cD025 cD026 cD027 cD027A cD028 cD029
    cD030 cD031 cD031A cD032 cD033 cD034 cD034A cD035 cD036 cD037 cD038 cD039 cD040 cD041 cD042
    cD043 cD044 cD045 cD046 cD046A cD047 cD048 cD048A cD049 cD050 cD050A cD050B cD050C cD050D
    cD050E cD050F cD050G cD050H cD050I cD051 cD052 cD052A cD053 cD054 cD054A cD055 cD056 cD057
    cD058 cD059 cD060 cD061 cD062 cD063 cD064 cD065 cD066 cD067 cD067A cD067B cD067C cD067D
    cD067E cD067F cD067G cD067H cE001 cE002 cE003 cE004 cE005 cE006 cE007 cE008 cE008A cE009
    cE009A cE010 cE011 cE012 cE013 cE014 cE015 cE016 cE016A cE017 cE017A cE018 cE019 cE020
    cE020A cE021 cE022 cE023 cE024 cE025 cE026 cE027 cE028 cE028A cE029 cE030 cE031 cE032 cE033
    cE034 cE034A cE036 cE037 cE038 cEND SEGMENT cF001 cF001A cF002 cF003 cF004 cF005 cF006 cF007
    cF008 cF009 cF010 cF011 cF012 cF013 cF013A cF014 cF015 cF016 cF017 cF018 cF019 cF020 cF021
    cF021A cF022 cF023 cF024 cF025 cF026 cF027 cF028 cF029 cF030 cF031 cF031A cF032 cF033 cF034
    cF035 cF036 cF037 cF037A cF038 cF038A cF039 cF040 cF041 cF042 cF043 cF044 cF045 cF045A cF046
    cF046A cF047 cF047A cF048 cF049 cF050 cF051 cF051A cF051B cF051C cF052 cF053 cG001 cG002
    cG003 cG004 cG005 cG006 cG006A cG007 cG007A cG007B cG008 cG009 cG010 cG011 cG011A cG012
    cG013 cG014 cG015 cG016 cG017 cG018 cG019 cG020 cG020A cG021 cG022 cG023 cG024 cG025 cG026
    cG026A cG027 cG028 cG029 cG030 cG031 cG032 cG033 cG034 cG035 cG036 cG036A cG037 cG037A cG038
    cG039 cG040 cG041 cG042 cG043 cG043A cG044 cG045 cG045A cG046 cG047 cG048 cG049 cG050 cG051
    cG052 cG053 cG054 cH001 cH002 cH003 cH004 cH005 cH006 cH006A cH007 cH008 cHORIZONTAL JOINER
    cI001 cI002 cI003 cI004 cI005 cI005A cI006 cI007 cI008 cI009 cI009A cI010 cI010A cI011
    cI011A cI012 cI013 cI014 cI015 cINSERT AT BOTTOM END fSTART eTOP END fSTART cK001 cK002
    cK003 cK004 cK005 cK006 cK007 cK008 cL001 cL002 cL002A cL003 cL004 cL005 cL006 cL006A cL007
    cL008 cM001 cM001A cM001B cM002 cM003 cM003A cM004 cM005 cM006 cM007 cM008 cM009 cM010
    cM010A cM011 cM012 cM012A cM012B cM012C cM012D cM012E cM012F cM012G cM012H cM013 cM014 cM015
    cM015A cM016 cM016A cM017 cM017A cM018 cM019 cM020 cM021 cM022 cM022A cM023 cM024 cM024A
    cM025 cM026 cM027 cM028 cM028A cM029 cM030 cM031 cM031A cM032 cM033 cM033A cM033B cM034
    cM035 cM036 cM037 cM038 cM039 cM040 cM040A cM041 cM042 cM043 cM044 cN001 cN002 cN003 cN004
    cN005 cN006 cN007 cN008 cN009 cN010 cN011 cN012 cN013 cN014 cN015 cN016 cN017 cN018 cN018A
    cN018B cN019 cN020 cN021 cN022 cN023 cN024 cN025 cN025A cN026 cN027 cN028 cN029 cN030 cN031
    cN032 cN033 cN033A cN034 cN034A cN035 cN035A cN036 cN037 cN037A cN038 cN039 cN040 cN041
    cN042 cNL001 cNL002 cNL003 cNL004 cNL005 cNL005A cNL006 cNL007 cNL008 cNL009 cNL010 cNL011
    cNL012 cNL013 cNL014 cNL015 cNL016 cNL017 cNL017A cNL018 cNL019 cNL020 cNU001 cNU002 cNU003
    cNU004 cNU005 cNU006 cNU007 cNU008 cNU009 cNU010 cNU010A cNU011 cNU011A cNU012 cNU013 cNU014
    cNU015 cNU016 cNU017 cNU018 cNU018A cNU019 cNU020 cNU021 cNU022 cNU022A cO001 cO001A cO002
    cO003 cO004 cO005 cO005A cO006 cO006A cO006B cO006C cO006D cO006E cO006F cO007 cO008 cO009
    cO010 cO010A cO010B cO010C cO011 cO012 cO013 cO014 cO015 cO016 cO017 cO018 cO019 cO019A
    cO020 cO020A cO021 cO022 cO023 cO024 cO024A cO025 cO025A cO026 cO027 cO028 cO029 cO029A
    cO030 cO030A cO031 cO032 cO033 cO033A cO034 cO035 cO036 cO036A cO036B cO036C cO036D cO037
    cO038 cO039 cO040 cO041 cO042 cO043 cO044 cO045 cO046 cO047 cO048 cO049 cO050 cO050A cO050B
    cO051 cOVERLAY MIDDLE cP001 cP001A cP002 cP003 cP003A cP004 cP005 cP006 cP007 cP008 cP009
    cP010 cP011 cQ001 cQ002 cQ003 cQ004 cQ005 cQ006 cQ007 cR001 cR002 cR002A cR003 cR003A cR003B
    cR004 cR005 cR006 cR007 cR008 cR009 cR010 cR010A cR011 cR012 cR013 cR014 cR015 cR016 cR016A
    cR017 cR018 cR019 cR020 cR021 cR022 cR023 cR024 cR025 cR026 cR027 cR028 cR029 cS001 cS002
    cS002A cS003 cS004 cS005 cS006 cS006A cS007 cS008 cS009 cS010 cS011 cS012 cS013 cS014 cS014A
    cS014B cS015 cS016 cS017 cS017A cS018 cS019 cS020 cS021 cS022 cS023 cS024 cS025 cS026 cS026A
    cS026B cS027 cS028 cS029 cS030 cS031 cS032 cS033 cS034 cS035 cS035A cS036 cS037 cS038 cS039
    cS040 cS041 cS042 cS043 cS044 cS045 cS046 cT001 cT002 cT003 cT003A cT004 cT005 cT006 cT007
    cT007A cT008 cT008A cT009 cT009A cT010 cT011 cT011A cT012 cT013 cT014 cT015 cT016 cT016A
    cT017 cT018 cT019 cT020 cT021 cT022 cT023 cT024 cT025 cT026 cT027 cT028 cT029 cT030 cT031
    cT032 cT032A cT033 cT033A cT034 cT035 cT036 cU001 cU002 cU003 cU004 cU005 cU006 cU006A
    cU006B cU007 cU008 cU009 cU010 cU011 cU012 cU013 cU014 cU015 cU016 cU017 cU018 cU019 cU020
    cU021 cU022 cU023 cU023A cU024 cU025 cU026 cU027 cU028 cU029 cU029A cU030 cU031 cU032 cU032A
    cU033 cU034 cU035 cU036 cU037 cU038 cU039 cU040 cU041 cU042 cV001 cV001A cV001B cV001C
    cV001D cV001E cV001F cV001G cV001H cV001I cV002 cV002A cV003 cV004 cV005 cV006 cV007 cV007A
    cV007B cV008 cV009 cV010 cV011 cV011A cV011B cV011C cV012 cV012A cV012B cV013 cV014 cV015
    cV016 cV017 cV018 cV019 cV020 cV020A cV020B cV020C cV020D cV020E cV020F cV020G cV020H cV020I
    cV020J cV020K cV020L cV021 cV022 cV023 cV023A cV024 cV025 cV026 cV027 cV028 cV028A cV029
    cV029A cV030 cV030A cV031 cV031A cV032 cV033 cV033A cV034 cV035 cV036 cV037 cV037A cV038
    cV039 cV040 cV040A cVERTICAL JOINER cW001 cW002 cW003 cW003A cW004 cW005 cW006 cW007 cW008
    cW009 cW009A cW010 cW010A cW011 cW012 cW013 cW014 cW014A cW015 cW016 cW017 cW017A cW018
    cW018A cW019 cW020 cW021 cW022 cW023 cW024 cW024A cW025 cX001 cX002 cX003 cX004 cX004A
    cX004B cX005 cX006 cX006A cX007 cX008 cX008A cY001 cY001A cY002 cY003 cY004 cY005 cY006
    cY007 cY008 cZ001 cZ002 cZ002A cZ002B cZ002C cZ002D cZ003 cZ003A cZ003B cZ004 cZ004A cZ005
    cZ005A cZ006 cZ007 cZ008 cZ009 cZ010 cZ011 cZ012 cZ013 cZ014 cZ015 cZ015A cZ015B cZ015C
    cZ015D cZ015E cZ015F cZ015G cZ015H cZ015I cZ016 cZ016A cZ016B cZ016C cZ016D cZ016E cZ016F
    cZ016G cZ016H aEIGHT PETALLED OUTLINED BLACK FLORETTE bPOINTED BLACK STAR cPINWHEEL STAR
    cRECTILINEAR BLACK STAR bSPOKED ASTERISK bTEARDROP-SPOKED PROPELLER ASTERISK aEIGHTH NOTE
    aEJECT SYMBOL aELBASAN LETTER A cBE cCE cCHE cDE cDHE cE cEI cFE cGE cGHAMMA cGHE cGJE cHE
    cI cJE cKE cKHE cLE cLLE cME cNA cNDE cNE cNJE cO cPE cQE cRE cRRE cSE cSHE cTE cTHE cU cVE
    cXE cY cZE cZHE aELECTRIC ARROW bLIGHT BULB bPLUG bTORCH aELECTRICAL INTERSECTION aELEMENT
    OF cOPENING DOWNWARDS dUPWARDS cWITH DOT ABOVE dLONG HORIZONTAL STROKE dOVERBAR dTWO
    HORIZONTAL STROKES dUNDERBAR dVERTICAL BAR AT END OF HORIZONTAL STROKE aELEPHANT aELEVATOR
    aELF aELYMAIC LETTER ALEPH cAYIN cBETH cDALETH cGIMEL cHE cHETH cKAPH cLAMEDH cMEM cNUN cPE
    cQOPH cRESH cSADHE cSAMEKH cSHIN cTAW cTETH cWAW cYODH cZAYIN bLIGATURE ZAYIN-YODH aEM DASH
    bQUAD bSPACE aEMOJI COMPONENT BALD cCURLY HAIR cRED HAIR cWHITE HAIR bMODIFIER FITZPATRICK
    TYPE-1-2 dTYPE-3 dTYPE-4 dTYPE-5 dTYPE-6 aEMPHASIS SYMBOL aEMPTY DOCUMENT bNEST bNOTE cPAD
    cPAGE bPAGE bPAGES bSET cWITH LEFT ARROW ABOVE dOVERBAR dRIGHT ARROW ABOVE dSMALL CIRCLE
    ABOVE aEN DASH bQUAD bSPACE aEND OF GUARDED AREA cLINE cMEDIUM cPROOF cPROTECTED AREA
    cSELECTED AREA cTEXT cTRANSMISSION dBLOCK bWITH LEFTWARDS ARROW ABOVE aENQ aENQUIRY aENTER
    SYMBOL aENVELOPE bWITH DOWNWARDS ARROW ABOVE cLIGHTNING aEOL aEOM aEOT aEPA aEQUAL AND
    PARALLEL TO bTO BY DEFINITION cOR GREATER-THAN dLESS-THAN dPRECEDES dSUCCEEDS aEQUALS COLON
    bSIGN cABOVE LEFTWARDS ARROW dPLUS SIGN dRIGHTWARDS ARROW dTILDE OPERATOR cAND SLANTED
    PARALLEL fWITH TILDE ABOVE cWITH BUMPY ABOVE dDOT BELOW dINFINITY BELOW dTWO DOTS ABOVE AND
    TWO DOTS BELOW bWITH ASTERISK aEQUIANGULAR TO aEQUIVALENT TO bWITH FOUR DOTS ABOVE aERASE TO
    THE LEFT dRIGHT aERIS FORM ONE cTWO aERROR-BARRED BLACK CIRCLE cDIAMOND cSQUARE bWHITE
    CIRCLE cDIAMOND cSQUARE aESA aESC aESCAPE aESTIMATED SYMBOL aESTIMATES aETB aETHIOPIC COLON
    bCOMBINING GEMINATION AND VOWEL LENGTH MARK dMARK cVOWEL LENGTH MARK bCOMMA bDIGIT EIGHT
    cFIVE cFOUR cNINE cONE cSEVEN cSIX cTHREE cTWO bFULL STOP bNUMBER EIGHTY cFIFTY cFORTY
    cHUNDRED cNINETY cSEVENTY cSIXTY cTEN dTHOUSAND cTHIRTY cTWENTY bPARAGRAPH SEPARATOR
    bPREFACE COLON bQUESTION MARK bSECTION MARK bSEMICOLON bSYLLABLE BA cBAA cBBA cBBAA cBBE
    cBBEE cBBI cBBO cBBU cBE cBEE cBI cBO cBOA cBU cBWA cBWE cBWEE cBWI cCA cCAA cCCA cCCAA cCCE
    cCCEE cCCHA cCCHAA cCCHE cCCHEE cCCHHA cCCHHAA cCCHHE cCCHHEE cCCHHI cCCHHO cCCHHU cCCHI
    cCCHO cCCHU cCCI cCCO cCCU cCE cCEE cCHA cCHAA cCHE cCHEE cCHI cCHO cCHOA cCHU cCHWA cCI cCO
    cCOA cCU cCWA cDA cDAA cDDA cDDAA cDDE cDDEE cDDHAA cDDHE cDDHEE cDDHI cDDHO cDDHU cDDI cDDO
    cDDOA cDDU cDDWA cDE cDEE cDI cDO cDOA cDU cDWA cDZAA cDZE cDZEE cDZI cDZO cDZU cFA cFAA cFE
    cFEE cFI cFO cFU cFWA cFWE cFWEE cFWI cFYA cGA cGAA cGE cGEE cGGA cGGAA cGGE cGGEE cGGI cGGO
    cGGU cGGWA cGGWAA cGGWE cGGWEE cGGWI cGI cGLOTTAL A dAA dE dEE dI dO dOA dU dWA cGO cGOA cGU
    cGURAGE BWEE dBWI dFWEE dFWI dGWE dGWEE dGWI dHHWA dKWE dKWEE dKWI dMWEE dMWI dPWEE dPWI
    dQWE dQWEE dQWI cGWA cGWAA cGWE cGWEE cGWI cGYA cGYAA cGYE cGYEE cGYI cGYO cGYU cHA cHAA cHE
    cHEE cHHA cHHAA cHHE cHHEE cHHI cHHO cHHU cHHWA cHHWE cHHWEE cHHWI cHHYA cHHYAA cHHYE cHHYEE
    cHHYI cHHYO cHHYU cHI cHO cHOA cHU cJA cJAA cJE cJEE cJI cJO cJOA cJU cJWA cKA cKAA cKE cKEE
    cKI cKO cKOA cKU cKWA cKWAA cKWE cKWEE cKWI cKXA cKXAA cKXE cKXEE cKXI cKXO cKXU cKXWA
    cKXWAA cKXWE cKXWEE cKXWI cKYA cKYAA cKYE cKYEE cKYI cKYO cKYU cLA cLAA cLE cLEE cLI cLO
    cLOA cLU cLWA cMA cMAA cME cMEE cMI cMO cMOA cMU cMWA cMWE cMWEE cMWI cMYA cNA cNAA cNE cNEE
    cNI cNO cNOA cNU cNWA cNYA cNYAA cNYE cNYEE cNYI cNYO cNYOA cNYU cNYWA cPA cPAA cPE cPEE
    cPHA cPHAA cPHARYNGEAL A dAA dE dEE dI dO dU cPHE cPHEE cPHI cPHO cPHOA cPHU cPHWA cPI cPO
    cPOA cPU cPWA cPWE cPWEE cPWI cQA cQAA cQE cQEE cQHA cQHAA cQHE cQHEE cQHI cQHO cQHU cQHWA
    cQHWAA cQHWE cQHWEE cQHWI cQI cQO cQOA cQU cQWA cQWAA cQWE cQWEE cQWI cQYA cQYAA cQYE cQYEE
    cQYI cQYO cQYU cRA cRAA cRE cREE cRI cRO cROA cRU cRWA cRYA cSA cSAA cSE cSEBATBEIT BWA dFWA
    dMWA dPWA cSEE cSHA cSHAA cSHE cSHEE cSHI cSHO cSHOA cSHU cSHWA cSI cSO cSOA cSSA cSSAA cSSE
    cSSEE cSSI cSSO cSSU cSU cSWA cSZA cSZAA cSZE cSZEE cSZI cSZO cSZU cSZWA cTA cTAA cTE cTEE
    cTHA cTHAA cTHE cTHEE cTHI cTHO cTHOA cTHU cTHWA cTI cTO cTOA cTSA cTSAA cTSE cTSEE cTSI
    cTSO cTSU cTSWA cTTHAA cTTHE cTTHEE cTTHI cTTHO cTTHU cTU cTWA cTZA cTZAA cTZE cTZEE cTZI
    cTZO cTZOA cTZU cVA cVAA cVE cVEE cVI cVO cVU cVWA cWA cWAA cWE cWEE cWI cWO cWOA cWU cXA
    cXAA cXE cXEE cXI cXO cXOA cXU cXWA cXWAA cXWE cXWEE cXWI cXYA cXYAA cXYE cXYEE cXYI cXYO
    cXYU cYA cYAA cYE cYEE cYI cYO cYOA cYU cZA cZAA cZE cZEE cZHA cZHAA cZHE cZHEE cZHI cZHO
    cZHU cZHWA cZI cZO cZOA cZU cZWA cZZA cZZAA cZZE cZZEE cZZI cZZO cZZU bTONAL MARK CHIRET
    dDERET dDERET-HIDET dDIFAT dHIDET dKENAT dKURT dRIKRIK dSHORT RIKRIK dYIZET bWORDSPACE aETX
    aEULER CONSTANT aEURO SIGN aEURO-CURRENCY SIGN aEUROPEAN CASTLE bPOST OFFICE aEVERGREEN TREE
    aEXCESS aEXCLAMATION MARK bQUESTION MARK aEXPRESSIONLESS FACE aEXTENDED ARABIC-INDIC DIGIT
    EIGHT dFIVE dFOUR dNINE dONE dSEVEN dSIX dTHREE dTWO dZERO aEXTRATERRESTRIAL ALIEN
    aEXTREMELY HEAVY FIVE SPOKED ASTERISK cGREEK CROSS cSALTIRE cSIX SPOKED ASTERISK cWHITE
    CIRCLE dSQUARE aEYE aEYEGLASSES aEYES aFACE HOLDING BACK TEARS bMASSAGE bPALM bSAVOURING
    DELICIOUS FOOD bSCREAMING IN FEAR bTHROWING A KISS bWITH COLD SWEAT cCOWBOY HAT cDIAGONAL
    MOUTH cFINGER COVERING CLOSED LIPS cHEAD-BANDAGE cLOOK OF TRIUMPH cMEDICAL MASK cMONOCLE cNO
    GOOD GESTURE cOK GESTURE cONE EYEBROW RAISED cOPEN EYES AND HAND OVER MOUTH dMOUTH eAND COLD
    SWEAT eVOMITING cPARTY HORN AND PARTY HAT cPEEKING EYE cPLEADING EYES cROLLING EYES
    cSTUCK-OUT TONGUE eAND TIGHTLY-CLOSED EYES fWINKING EYE cTEARS OF JOY cTHERMOMETER cUNEVEN
    EYES AND WAVY MOUTH bWITHOUT MOUTH aFACSIMILE SIGN aFACTORY aFAIRY aFALAFEL aFALLEN LEAF
    aFALLING DIAGONAL CROSSING NORTH EAST ARROW dRISING DIAGONAL cIN WHITE CIRCLE IN BLACK
    SQUARE aFAMILY aFARSI SYMBOL aFATHER CHRISTMAS aFAX ICON bMACHINE aFEARFUL FACE aFEATHER
    aFEMALE SIGN aFEMININE ORDINAL INDICATOR aFENCER aFERRIS WHEEL aFERRY aFF aFIELD HOCKEY
    STICK AND BALL aFIGURE DASH bSPACE aFILE CABINET bFOLDER bSEPARATOR aFILM FRAMES bPROJECTOR
    aFINITE PART INTEGRAL aFIRE bENGINE bEXTINGUISHER aFIRECRACKER aFIREWORK SPARKLER aFIREWORKS
    aFIRST PLACE MEDAL bQUARTER MOON dSYMBOL dWITH FACE bSTRONG ISOLATE aFISH bCAKE WITH SWIRL
    DESIGN aFISHEYE aFISHING POLE AND FISH aFISTED HAND SIGN aFIVE DOT MARK cPUNCTUATION aFLAG
    IN HOLE aFLAMINGO aFLAT SHOE aFLATBREAD aFLATNESS aFLEUR-DE-LIS aFLEXED BICEPS aFLOPPY DISK
    aFLORAL HEART aFLOWER bPLAYING CARDS bPUNCTUATION MARK aFLUSHED FACE aFLY aFLYING DISC
    bENVELOPE bSAUCER aFOG aFOGGY aFOLDER aFONDUE aFOOT aFOOTPRINTS aFOR ALL aFORCES aFORK AND
    KNIFE dWITH PLATE aFORKED PARAGRAPHOS aFORKING aFORM FEED aFORTUNE COOKIE aFOUNTAIN aFOUR
    BALLOON-SPOKED ASTERISK bCLUB-SPOKED ASTERISK bCORNER ARROWS CIRCLING ANTICLOCKWISE bDOT
    MARK cPUNCTUATION bLEAF CLOVER bPOINTED BLACK STAR bTEARDROP-SPOKED ASTERISK aFOUR-PER-EM
    SPACE aFOURTH ROOT aFOX FACE aFRACTION NUMERATOR ONE bSLASH aFRAME WITH AN X cPICTURE cTILES
    aFREEZING FACE aFRENCH FRANC SIGN bFRIES aFRIED SHRIMP aFROG FACE aFRONT-FACING BABY CHICK
    aFRONT-TILTED SHADOWED WHITE RIGHTWARDS ARROW aFROWN aFROWNING FACE WITH OPEN MOUTH aFS aFSI
    aFUEL PUMP aFULL BLOCK bMOON SYMBOL cWITH FACE bOUTER JOIN bSTOP aFULLWIDTH AMPERSAND
    bAPOSTROPHE bASTERISK bBROKEN BAR bCENT SIGN bCIRCUMFLEX ACCENT bCOLON bCOMMA bCOMMERCIAL AT
    bDIGIT EIGHT cFIVE cFOUR cNINE cONE cSEVEN cSIX cTHREE cTWO cZERO bDOLLAR SIGN bEQUALS SIGN
    bEXCLAMATION MARK bFULL STOP bGRAVE ACCENT bGREATER-THAN SIGN bHYPHEN-MINUS bLATIN CAPITAL
    LETTER A eB eC eD eE eF eG eH eI eJ eK eL eM eN eO eP eQ eR eS eT eU eV eW eX eY eZ cSMALL
    LETTER A eB eC eD eE eF eG eH eI eJ eK eL eM eN eO eP eQ eR eS eT eU eV eW eX eY eZ bLEFT
    CURLY BRACKET cPARENTHESIS cSQUARE BRACKET cWHITE PARENTHESIS bLESS-THAN SIGN bLOW LINE
    bMACRON bNOT SIGN bNUMBER SIGN bPERCENT SIGN bPLUS SIGN bPOUND SIGN bQUESTION MARK
    bQUOTATION MARK bREVERSE SOLIDUS bRIGHT CURLY BRACKET cPARENTHESIS cSQUARE BRACKET cWHITE
    PARENTHESIS bSEMICOLON bSOLIDUS bTILDE bVERTICAL LINE bWON SIGN bYEN SIGN aFUNCTION
    APPLICATION aFUNERAL URN aFUSE aFVS1 aFVS2 aFVS3 aFVS4 aGAME DIE aGARLIC aGEAR bWITH HANDLES
    bWITHOUT HUB aGEM STONE aGEMINI aGENIE aGEOMETRIC PROPORTION aGEOMETRICALLY EQUAL TO
    bEQUIVALENT TO aGEORGIAN CAPITAL LETTER AEN dAN dBAN dCAN dCHAR dCHIN dCIL dDON dEN dGAN
    dGHAN dHAE dHAR dHE dHIE dHOE dIN dJHAN dJIL dKAN dKHAR dLAS dMAN dNAR dON dPAR dPHAR dQAR
    dRAE dSAN dSHIN dTAN dTAR dUN dVIN dWE dXAN dYN dZEN dZHAR bLETTER AEN cAIN cAN cBAN cCAN
    cCHAR cCHIN cCIL cDON cELIFI cEN cFI cGAN cGHAN cHAE cHAR cHARD SIGN cHE cHIE cHOE cIN cJHAN
    cJIL cKAN cKHAR cLABIAL SIGN cLAS cMAN cNAR cON cPAR cPHAR cQAR cRAE cSAN cSHIN cTAN cTAR
    cTURNED GAN cUN cVIN cWE cXAN cYN cZEN cZHAR bMTAVRULI CAPITAL LETTER AEN eAIN eAN eBAN eCAN
    eCHAR eCHIN eCIL eDON eELIFI eEN eFI eGAN eGHAN eHAE eHAR eHARD SIGN eHE eHIE eHOE eIN eJHAN
    eJIL eKAN eKHAR eLABIAL SIGN eLAS eMAN eNAR eON ePAR ePHAR eQAR eRAE eSAN eSHIN eTAN eTAR
    eTURNED GAN eUN eVIN eWE eXAN eYN eZEN eZHAR bPARAGRAPH SEPARATOR bSMALL LETTER AEN dAN dBAN
    dCAN dCHAR dCHIN dCIL dDON dEN dGAN dGHAN dHAE dHAR dHE dHIE dHOE dIN dJHAN dJIL dKAN dKHAR
    dLAS dMAN dNAR dON dPAR dPHAR dQAR dRAE dSAN dSHIN dTAN dTAR dUN dVIN dWE dXAN dYN dZEN
    dZHAR aGERMAN PENNY SIGN aGETA MARK aGHOST aGIMEL SYMBOL aGIRAFFE FACE aGIRL aGIRLS SYMBOL
    aGLAGOLITIC CAPITAL LETTER AZU dBIG YUS dBUKY dCAUDATE CHRIVI dCHRIVI dDJERVI dDOBRO dDZELO
    dFITA dFRITU dGLAGOLI dHERU dI dINITIAL IZHE dIOTATED BIG YUS eSMALL YUS dIZHE dIZHITSA
    dKAKO dLATINATE MYSLITE dLJUDIJE dMYSLITE dNASHI dONU dOTU dPE dPOKOJI dRITSI dSHA dSHTA
    dSHTAPIC dSLOVO dSMALL YUS fWITH TAIL dSPIDERY HA dTROKUTASTI A dTSI dTVRIDO dUKU dVEDE
    dYATI dYERI dYERU dYESTU dYO dYU dZEMLJA dZHIVETE bSMALL LETTER AZU dBIG YUS dBUKY dCAUDATE
    CHRIVI dCHRIVI dDJERVI dDOBRO dDZELO dFITA dFRITU dGLAGOLI dHERU dI dINITIAL IZHE dIOTATED
    BIG YUS eSMALL YUS dIZHE dIZHITSA dKAKO dLATINATE MYSLITE dLJUDIJE dMYSLITE dNASHI dONU dOTU
    dPE dPOKOJI dRITSI dSHA dSHTA dSHTAPIC dSLOVO dSMALL YUS fWITH TAIL dSPIDERY HA dTROKUTASTI
    A dTSI dTVRIDO dUKU dVEDE dYATI dYERI dYERU dYESTU dYO dYU dZEMLJA dZHIVETE aGLASS OF MILK
    aGLEICH STARK aGLOBE WITH MERIDIANS aGLOVES aGLOWING STAR aGOAL NET aGOAT aGOGGLES aGOLFER
    aGORILLA aGOTHIC LETTER AHSA cAIHVUS cBAIRKAN cDAGS cEIS cFAIHU cGIBA cHAGL cHWAIR cIGGWS
    cIUJA cJER cKUSMA cLAGUS cMANNA cNAUTHS cNINE HUNDRED cNINETY cOTHAL cPAIRTHRA cQAIRTHRA
    cRAIDA cSAUIL cTEIWS cTHIUTH cURUS cWINJA aGRADUATION CAP aGRANTHA AU LENGTH MARK bLETTER A
    cAA cAI cAU cBA cBHA cCA cCHA cDA cDDA cDDHA cDHA cEE cGA cGHA cHA cI cII cJA cJHA cKA cKHA
    cLA cLLA cMA cNA cNGA cNNA cNYA cOO cPA cPHA cRA cSA cSHA cSSA cTA cTHA cTTA cTTHA cU cUU
    cVA cVEDIC ANUSVARA dDOUBLE ANUSVARA cVOCALIC L dLL dR dRR cYA bOM bSIGN ANUSVARA cAVAGRAHA
    cCANDRABINDU cCOMBINING ANUSVARA ABOVE cNUKTA cPLUTA cVIRAMA cVISARGA bVOWEL SIGN AA dAI dAU
    dEE dI dII dOO dU dUU dVOCALIC L eLL eR eRR aGRAPES aGRAVE ACCENT aGREATER-THAN ABOVE
    DOUBLE-LINE EQUAL ABOVE LESS-THAN cLESS-THAN ABOVE DOUBLE-LINE EQUAL cRIGHTWARDS ARROW
    cSIMILAR ABOVE LESS-THAN dOR EQUAL cSLANTED EQUAL ABOVE LESS-THAN ABOVE SLANTED EQUAL bAND
    NOT APPROXIMATE cSINGLE-LINE NOT EQUAL TO bBESIDE LESS-THAN bBUT NOT EQUAL TO dEQUIVALENT TO
    bCLOSED BY CURVE eABOVE SLANTED EQUAL bEQUAL TO OR LESS-THAN bOR APPROXIMATE cEQUAL TO
    cEQUIVALENT TO cLESS-THAN cSLANTED EQUAL TO fWITH DOT ABOVE iLEFT hINSIDE bOVER EQUAL TO
    bOVERLAPPING LESS-THAN bSIGN bWITH CIRCLE INSIDE cDOT cQUESTION MARK ABOVE aGREEK ACROPHONIC
    ATTIC FIFTY eSTATERS eTALENTS eTHOUSAND fSTATERS dFIVE eHUNDRED fSTATERS fTALENTS eSTATERS
    eTALENTS eTHOUSAND fTALENTS dONE DRACHMA eHALF eHUNDRED STATERS fTALENTS eQUARTER eTHOUSAND
    STATERS fTALENTS dTEN MNAS eSTATERS eTALENTS eTHOUSAND STATERS cCARYSTIAN FIVE HUNDRED
    cCYRENAIC TWO DRACHMAS cDELPHIC FIVE MNAS cEPIDAUREAN FIVE HUNDRED dTWO eDRACHMAS cHERAEUM
    ONE PLETHRON cHERMIONIAN FIFTY dONE dTEN cMESSENIAN TEN cNAXIAN FIVE HUNDRED cSTRATIAN FIFTY
    MNAS cTHESPIAN FIFTY dFIVE HUNDRED eTHOUSAND dONE eHUNDRED eTHOUSAND dTEN dTHIRTY dTHREE
    HUNDRED dTWO cTROEZENIAN FIFTY eALTERNATE FORM dFIVE eHUNDRED dTEN eALTERNATE FORM bANO
    TELEIA bAROURA SIGN bARTABE SIGN bBETA SYMBOL bCAPITAL DOTTED LUNATE SIGMA SYMBOL cKAI
    SYMBOL cLETTER ALPHA eWITH DASIA gAND OXIA iAND PROSGEGRAMMENI hPERISPOMENI iAND
    PROSGEGRAMMENI hPROSGEGRAMMENI hVARIA iAND PROSGEGRAMMENI fMACRON fOXIA fPROSGEGRAMMENI
    fPSILI gAND OXIA iAND PROSGEGRAMMENI hPERISPOMENI iAND PROSGEGRAMMENI hPROSGEGRAMMENI hVARIA
    iAND PROSGEGRAMMENI fTONOS fVARIA fVRACHY dARCHAIC SAMPI dBETA dCHI dDELTA dEPSILON eWITH
    DASIA gAND OXIA hVARIA fOXIA fPSILI gAND OXIA hVARIA fTONOS fVARIA dETA eWITH DASIA gAND
    OXIA iAND PROSGEGRAMMENI hPERISPOMENI iAND PROSGEGRAMMENI hPROSGEGRAMMENI hVARIA iAND
    PROSGEGRAMMENI fOXIA fPROSGEGRAMMENI fPSILI gAND OXIA iAND PROSGEGRAMMENI hPERISPOMENI iAND
    PROSGEGRAMMENI hPROSGEGRAMMENI hVARIA iAND PROSGEGRAMMENI fTONOS fVARIA dGAMMA dHETA dIOTA
    eWITH DASIA gAND OXIA hPERISPOMENI hVARIA fDIALYTIKA fMACRON fOXIA fPSILI gAND OXIA
    hPERISPOMENI hVARIA fTONOS fVARIA fVRACHY dKAPPA dLAMDA dMU dNU dOMEGA eWITH DASIA gAND OXIA
    iAND PROSGEGRAMMENI hPERISPOMENI iAND PROSGEGRAMMENI hPROSGEGRAMMENI hVARIA iAND
    PROSGEGRAMMENI fOXIA fPROSGEGRAMMENI fPSILI gAND OXIA iAND PROSGEGRAMMENI hPERISPOMENI iAND
    PROSGEGRAMMENI hPROSGEGRAMMENI hVARIA iAND PROSGEGRAMMENI fTONOS fVARIA dOMICRON eWITH DASIA
    gAND OXIA hVARIA fOXIA fPSILI gAND OXIA hVARIA fTONOS fVARIA dPAMPHYLIAN DIGAMMA dPHI dPI
    dPSI dRHO eWITH DASIA dSAN dSHO dSIGMA dTAU dTHETA dUPSILON eWITH DASIA gAND OXIA
    hPERISPOMENI hVARIA fDIALYTIKA fMACRON fOXIA fTONOS fVARIA fVRACHY dXI dYOT dZETA cLUNATE
    SIGMA SYMBOL cREVERSED DOTTED LUNATE SIGMA SYMBOL dLUNATE SIGMA SYMBOL cTHETA SYMBOL bDASIA
    cAND OXIA dPERISPOMENI dVARIA bDIALYTIKA AND OXIA dPERISPOMENI dVARIA cTONOS bDRACHMA SIGN
    bFIVE OBOLS SIGN bFOUR OBOLS SIGN bGRAMMA SIGN bINDICTION SIGN bINSTRUMENTAL NOTATION
    SYMBOL-1 dSYMBOL-11 dSYMBOL-12 dSYMBOL-13 dSYMBOL-14 dSYMBOL-17 dSYMBOL-18 dSYMBOL-19
    dSYMBOL-2 dSYMBOL-23 dSYMBOL-24 dSYMBOL-25 dSYMBOL-26 dSYMBOL-27 dSYMBOL-29 dSYMBOL-30
    dSYMBOL-32 dSYMBOL-36 dSYMBOL-37 dSYMBOL-38 dSYMBOL-39 dSYMBOL-4 dSYMBOL-40 dSYMBOL-42
    dSYMBOL-43 dSYMBOL-45 dSYMBOL-47 dSYMBOL-48 dSYMBOL-49 dSYMBOL-5 dSYMBOL-50 dSYMBOL-51
    dSYMBOL-52 dSYMBOL-53 dSYMBOL-54 dSYMBOL-7 dSYMBOL-8 bKAI SYMBOL bKAPPA SYMBOL bKORONIS
    bKYATHOS BASE SIGN bLETTER ARCHAIC KOPPA cDIGAMMA cKOPPA cSAMPI cSMALL CAPITAL GAMMA eLAMDA
    eOMEGA ePI ePSI eRHO cSTIGMA cYOT bLITRA SIGN bLOWER NUMERAL SIGN bLUNATE EPSILON SYMBOL
    cSIGMA SYMBOL bMETRETES SIGN bMUSICAL LEIMMA bNUMERAL SIGN bOBOL SIGN bONE HALF SIGN
    eALTERNATE FORM cQUARTER SIGN bOUNKIA SIGN bOXIA bPERISPOMENI bPHI SYMBOL bPI SYMBOL
    bPROSGEGRAMMENI bPSILI cAND OXIA dPERISPOMENI dVARIA bQUESTION MARK bREVERSED LUNATE EPSILON
    SYMBOL bRHO SYMBOL cWITH STROKE SYMBOL bSINUSOID SIGN bSMALL DOTTED LUNATE SIGMA SYMBOL
    cLETTER ALPHA eWITH DASIA gAND OXIA iAND YPOGEGRAMMENI hPERISPOMENI iAND YPOGEGRAMMENI
    hVARIA iAND YPOGEGRAMMENI hYPOGEGRAMMENI fMACRON fOXIA gAND YPOGEGRAMMENI fPERISPOMENI gAND
    YPOGEGRAMMENI fPSILI gAND OXIA iAND YPOGEGRAMMENI hPERISPOMENI iAND YPOGEGRAMMENI hVARIA
    iAND YPOGEGRAMMENI hYPOGEGRAMMENI fTONOS fVARIA gAND YPOGEGRAMMENI fVRACHY fYPOGEGRAMMENI
    dARCHAIC KOPPA eSAMPI dBETA dCHI dDELTA dDIGAMMA dEPSILON eWITH DASIA gAND OXIA hVARIA fOXIA
    fPSILI gAND OXIA hVARIA fTONOS fVARIA dETA eWITH DASIA gAND OXIA iAND YPOGEGRAMMENI
    hPERISPOMENI iAND YPOGEGRAMMENI hVARIA iAND YPOGEGRAMMENI hYPOGEGRAMMENI fOXIA gAND
    YPOGEGRAMMENI fPERISPOMENI gAND YPOGEGRAMMENI fPSILI gAND OXIA iAND YPOGEGRAMMENI
    hPERISPOMENI iAND YPOGEGRAMMENI hVARIA iAND YPOGEGRAMMENI hYPOGEGRAMMENI fTONOS fVARIA gAND
    YPOGEGRAMMENI fYPOGEGRAMMENI dFINAL SIGMA dGAMMA dHETA dIOTA eWITH DASIA gAND OXIA
    hPERISPOMENI hVARIA fDIALYTIKA gAND OXIA hPERISPOMENI hTONOS hVARIA fMACRON fOXIA
    fPERISPOMENI fPSILI gAND OXIA hPERISPOMENI hVARIA fTONOS fVARIA fVRACHY dKAPPA dKOPPA dLAMDA
    dMU dNU dOMEGA eWITH DASIA gAND OXIA iAND YPOGEGRAMMENI hPERISPOMENI iAND YPOGEGRAMMENI
    hVARIA iAND YPOGEGRAMMENI hYPOGEGRAMMENI fOXIA gAND YPOGEGRAMMENI fPERISPOMENI gAND
    YPOGEGRAMMENI fPSILI gAND OXIA iAND YPOGEGRAMMENI hPERISPOMENI iAND YPOGEGRAMMENI hVARIA
    iAND YPOGEGRAMMENI hYPOGEGRAMMENI fTONOS fVARIA gAND YPOGEGRAMMENI fYPOGEGRAMMENI dOMICRON
    eWITH DASIA gAND OXIA hVARIA fOXIA fPSILI gAND OXIA hVARIA fTONOS fVARIA dPAMPHYLIAN DIGAMMA
    dPHI dPI dPSI dRHO eWITH DASIA fPSILI dSAMPI dSAN dSHO dSIGMA dSTIGMA dTAU dTHETA dUPSILON
    eWITH DASIA gAND OXIA hPERISPOMENI hVARIA fDIALYTIKA gAND OXIA hPERISPOMENI hTONOS hVARIA
    fMACRON fOXIA fPERISPOMENI fPSILI gAND OXIA hPERISPOMENI hVARIA fTONOS fVARIA fVRACHY dXI
    dZETA cREVERSED DOTTED LUNATE SIGMA SYMBOL dLUNATE SIGMA SYMBOL bSUBSCRIPT SMALL LETTER BETA
    eCHI eGAMMA ePHI eRHO bSYMBOL TAU RHO bTALENT SIGN bTHETA SYMBOL bTHREE OBOLS SIGN cQUARTERS
    SIGN bTONOS bTRYBLION BASE SIGN bTWO OBOLS SIGN cTHIRDS SIGN bUPSILON WITH ACUTE AND HOOK
    SYMBOL dDIAERESIS AND HOOK SYMBOL dHOOK SYMBOL bVARIA bVOCAL NOTATION SYMBOL-1 dSYMBOL-10
    dSYMBOL-11 dSYMBOL-12 dSYMBOL-13 dSYMBOL-14 dSYMBOL-15 dSYMBOL-16 dSYMBOL-17 dSYMBOL-18
    dSYMBOL-19 dSYMBOL-2 dSYMBOL-20 dSYMBOL-21 dSYMBOL-22 dSYMBOL-23 dSYMBOL-24 dSYMBOL-3
    dSYMBOL-4 dSYMBOL-5 dSYMBOL-50 dSYMBOL-51 dSYMBOL-52 dSYMBOL-53 dSYMBOL-54 dSYMBOL-6
    dSYMBOL-7 dSYMBOL-8 dSYMBOL-9 bXESTES SIGN bYEAR SIGN bYPOGEGRAMMENI bZERO SIGN aGREEN APPLE
    bBOOK bHEART bSALAD aGRIMACING FACE aGRINNING CAT FACE WITH SMILING EYES bFACE cWITH ONE
    LARGE AND ONE SMALL EYE dSMILING EYES dSTAR EYES aGROUP MARK bSEPARATOR aGROWING HEART aGS
    aGUARANI SIGN aGUARDSMAN aGUIDE DOG aGUITAR aGUJARATI ABBREVIATION SIGN bDIGIT EIGHT cFIVE
    cFOUR cNINE cONE cSEVEN cSIX cTHREE cTWO cZERO bLETTER A cAA cAI cAU cBA cBHA cCA cCHA cDA
    cDDA cDDHA cDHA cE cGA cGHA cHA cI cII cJA cJHA cKA cKHA cLA cLLA cMA cNA cNGA cNNA cNYA cO
    cPA cPHA cRA cSA cSHA cSSA cTA cTHA cTTA cTTHA cU cUU cVA cVOCALIC L dLL dR dRR cYA cZHA bOM
    bRUPEE SIGN bSIGN ANUSVARA cAVAGRAHA cCANDRABINDU cCIRCLE NUKTA ABOVE cMADDAH cNUKTA cSHADDA
    cSUKUN cTHREE-DOT NUKTA ABOVE cTWO-CIRCLE NUKTA ABOVE cVIRAMA cVISARGA bVOWEL CANDRA E dO
    cSIGN AA dAI dAU dCANDRA E eO dE dI dII dO dU dUU dVOCALIC L eLL eR eRR aGUNJALA GONDI DIGIT
    EIGHT dFIVE dFOUR dNINE dONE dSEVEN dSIX dTHREE dTWO dZERO cLETTER A dAA dAI dAU dBA dBHA
    dCA dCHA dDA dDDA dDDHA dDHA dEE dGA dGHA dHA dI dII dJA dJHA dKA dKHA dLA dLLA dMA dNA dNGA
    dOO dPA dPHA dRA dSA dTA dTHA dTTA dTTHA dU dUU dVA dYA cOM cSIGN ANUSVARA dVISARGA cVIRAMA
    cVOWEL SIGN AA eAI eAU eEE eI eII eOO eU eUU aGURMUKHI ABBREVIATION SIGN bADDAK bDIGIT EIGHT
    cFIVE cFOUR cNINE cONE cSEVEN cSIX cTHREE cTWO cZERO bEK ONKAR bIRI bLETTER A cAA cAI cAU
    cBA cBHA cCA cCHA cDA cDDA cDDHA cDHA cEE cFA cGA cGHA cGHHA cHA cI cII cJA cJHA cKA cKHA
    cKHHA cLA cLLA cMA cNA cNGA cNNA cNYA cOO cPA cPHA cRA cRRA cSA cSHA cTA cTHA cTTA cTTHA cU
    cUU cVA cYA cZA bSIGN ADAK BINDI cBINDI cNUKTA cUDAAT cVIRAMA cVISARGA cYAKASH bTIPPI bURA
    bVOWEL SIGN AA dAI dAU dEE dI dII dOO dU dUU aHADES aHAIR SPACE aHAIRCUT aHALFWIDTH BLACK
    SQUARE bDOWNWARDS ARROW bFORMS LIGHT VERTICAL bHANGUL FILLER cLETTER A dAE dCHIEUCH dCIEUC
    dE dEO dEU dHIEUH dI dIEUNG dKHIEUKH dKIYEOK dKIYEOK-SIOS dMIEUM dNIEUN dNIEUN-CIEUC
    dNIEUN-HIEUH dO dOE dPHIEUPH dPIEUP dPIEUP-SIOS dRIEUL dRIEUL-HIEUH dRIEUL-KIYEOK
    dRIEUL-MIEUM dRIEUL-PHIEUPH dRIEUL-PIEUP dRIEUL-SIOS dRIEUL-THIEUTH dSIOS dSSANGCIEUC
    dSSANGKIYEOK dSSANGPIEUP dSSANGSIOS dSSANGTIKEUT dTHIEUTH dTIKEUT dU dWA dWAE dWE dWEO dWI
    dYA dYAE dYE dYEO dYI dYO dYU bIDEOGRAPHIC COMMA cFULL STOP bKATAKANA LETTER A dE dHA dHE
    dHI dHO dHU dI dKA dKE dKI dKO dKU dMA dME dMI dMO dMU dN dNA dNE dNI dNO dNU dO dRA dRE dRI
    dRO dRU dSA dSE dSI dSMALL A eE eI eO eTU eU eYA eYO eYU dSO dSU dTA dTE dTI dTO dTU dU dWA
    dWO dYA dYO dYU cMIDDLE DOT cSEMI-VOICED SOUND MARK cVOICED SOUND MARK bKATAKANA-HIRAGANA
    PROLONGED SOUND MARK bLEFT CORNER BRACKET bLEFTWARDS ARROW bRIGHT CORNER BRACKET bRIGHTWARDS
    ARROW bUPWARDS ARROW bWHITE CIRCLE aHAMBURGER aHAMMER bAND PICK cSICKLE cWRENCH aHAMSA
    aHAMSTER FACE aHAND WITH INDEX AND MIDDLE FINGERS CROSSED dFINGER AND THUMB CROSSED aHANDBAG
    aHANDBALL aHANDSHAKE aHANGUL CHOSEONG CEONGCHIEUMCHIEUCH cCEONGCHIEUMCIEUC cCEONGCHIEUMSIOS
    cCEONGCHIEUMSSANGCIEUC cCEONGCHIEUMSSANGSIOS cCHIEUCH cCHIEUCH-HIEUH cCHIEUCH-KHIEUKH
    cCHITUEUMCHIEUCH cCHITUEUMCIEUC cCHITUEUMSIOS cCHITUEUMSSANGCIEUC cCHITUEUMSSANGSIOS cCIEUC
    cCIEUC-IEUNG cFILLER cHIEUH cHIEUH-SIOS cIEUNG cIEUNG-CHIEUCH cIEUNG-CIEUC cIEUNG-HIEUH
    cIEUNG-KIYEOK cIEUNG-MIEUM cIEUNG-PANSIOS cIEUNG-PHIEUPH cIEUNG-PIEUP cIEUNG-RIEUL
    cIEUNG-SIOS cIEUNG-THIEUTH cIEUNG-TIKEUT cKAPYEOUNMIEUM cKAPYEOUNPHIEUPH cKAPYEOUNPIEUP
    cKAPYEOUNRIEUL cKAPYEOUNSSANGPIEUP cKHIEUKH cKIYEOK cKIYEOK-TIKEUT cMIEUM cMIEUM-KIYEOK
    cMIEUM-PIEUP cMIEUM-SIOS cMIEUM-TIKEUT cNIEUN cNIEUN-CIEUC cNIEUN-HIEUH cNIEUN-KIYEOK
    cNIEUN-PIEUP cNIEUN-SIOS cNIEUN-TIKEUT cPANSIOS cPHIEUPH cPHIEUPH-HIEUH cPHIEUPH-PIEUP
    cPIEUP cPIEUP-CHIEUCH cPIEUP-CIEUC cPIEUP-HIEUH cPIEUP-KHIEUKH cPIEUP-KIYEOK cPIEUP-NIEUN
    cPIEUP-PHIEUPH cPIEUP-SIOS cPIEUP-SIOS-CIEUC cPIEUP-SIOS-KIYEOK cPIEUP-SIOS-PIEUP
    cPIEUP-SIOS-THIEUTH cPIEUP-SIOS-TIKEUT cPIEUP-SSANGSIOS cPIEUP-THIEUTH cPIEUP-TIKEUT cRIEUL
    cRIEUL-CIEUC cRIEUL-HIEUH cRIEUL-KAPYEOUNPIEUP cRIEUL-KHIEUKH cRIEUL-KIYEOK cRIEUL-MIEUM
    cRIEUL-NIEUN cRIEUL-PIEUP cRIEUL-SIOS cRIEUL-SSANGKIYEOK cRIEUL-SSANGPIEUP
    cRIEUL-SSANGTIKEUT cRIEUL-TIKEUT cSIOS cSIOS-CHIEUCH cSIOS-CIEUC cSIOS-HIEUH cSIOS-IEUNG
    cSIOS-KHIEUKH cSIOS-KIYEOK cSIOS-MIEUM cSIOS-NIEUN cSIOS-PHIEUPH cSIOS-PIEUP
    cSIOS-PIEUP-KIYEOK cSIOS-RIEUL cSIOS-SSANGSIOS cSIOS-THIEUTH cSIOS-TIKEUT cSSANGCIEUC
    cSSANGCIEUC-HIEUH cSSANGHIEUH cSSANGIEUNG cSSANGKIYEOK cSSANGNIEUN cSSANGPIEUP cSSANGRIEUL
    cSSANGSIOS cSSANGSIOS-PIEUP cSSANGTHIEUTH cSSANGTIKEUT cSSANGYEORINHIEUH cTHIEUTH cTIKEUT
    cTIKEUT-CIEUC cTIKEUT-KIYEOK cTIKEUT-MIEUM cTIKEUT-PIEUP cTIKEUT-RIEUL cTIKEUT-SIOS
    cYEORINHIEUH cYESIEUNG bDOUBLE DOT TONE MARK bFILLER bJONGSEONG CHIEUCH cCIEUC cCIEUC-PIEUP
    cCIEUC-SSANGPIEUP cHIEUH cHIEUH-MIEUM cHIEUH-NIEUN cHIEUH-PIEUP cHIEUH-RIEUL cIEUNG
    cIEUNG-KHIEUKH cIEUNG-KIYEOK cIEUNG-SSANGKIYEOK cKAPYEOUNMIEUM cKAPYEOUNPHIEUPH
    cKAPYEOUNPIEUP cKAPYEOUNRIEUL cKHIEUKH cKIYEOK cKIYEOK-CHIEUCH cKIYEOK-HIEUH cKIYEOK-KHIEUKH
    cKIYEOK-NIEUN cKIYEOK-PIEUP cKIYEOK-RIEUL cKIYEOK-SIOS cKIYEOK-SIOS-KIYEOK cMIEUM
    cMIEUM-CHIEUCH cMIEUM-CIEUC cMIEUM-HIEUH cMIEUM-KIYEOK cMIEUM-NIEUN cMIEUM-PANSIOS
    cMIEUM-PIEUP cMIEUM-PIEUP-SIOS cMIEUM-RIEUL cMIEUM-SIOS cMIEUM-SSANGNIEUN cMIEUM-SSANGSIOS
    cNIEUN cNIEUN-CHIEUCH cNIEUN-CIEUC cNIEUN-HIEUH cNIEUN-KIYEOK cNIEUN-PANSIOS cNIEUN-RIEUL
    cNIEUN-SIOS cNIEUN-THIEUTH cNIEUN-TIKEUT cPANSIOS cPANSIOS-KAPYEOUNPIEUP cPANSIOS-PIEUP
    cPHIEUPH cPHIEUPH-PIEUP cPHIEUPH-SIOS cPHIEUPH-THIEUTH cPIEUP cPIEUP-CHIEUCH cPIEUP-CIEUC
    cPIEUP-HIEUH cPIEUP-MIEUM cPIEUP-PHIEUPH cPIEUP-RIEUL cPIEUP-RIEUL-PHIEUPH cPIEUP-SIOS
    cPIEUP-SIOS-TIKEUT cPIEUP-TIKEUT cRIEUL cRIEUL-HIEUH cRIEUL-KAPYEOUNPIEUP cRIEUL-KHIEUKH
    cRIEUL-KIYEOK cRIEUL-KIYEOK-HIEUH cRIEUL-KIYEOK-SIOS cRIEUL-MIEUM cRIEUL-MIEUM-HIEUH
    cRIEUL-MIEUM-KIYEOK cRIEUL-MIEUM-SIOS cRIEUL-NIEUN cRIEUL-PANSIOS cRIEUL-PHIEUPH
    cRIEUL-PIEUP cRIEUL-PIEUP-HIEUH cRIEUL-PIEUP-PHIEUPH cRIEUL-PIEUP-SIOS cRIEUL-PIEUP-TIKEUT
    cRIEUL-SIOS cRIEUL-SSANGKIYEOK cRIEUL-SSANGSIOS cRIEUL-THIEUTH cRIEUL-TIKEUT
    cRIEUL-TIKEUT-HIEUH cRIEUL-YEORINHIEUH cRIEUL-YEORINHIEUH-HIEUH cRIEUL-YESIEUNG cSIOS
    cSIOS-CHIEUCH cSIOS-CIEUC cSIOS-HIEUH cSIOS-KAPYEOUNPIEUP cSIOS-KIYEOK cSIOS-MIEUM
    cSIOS-PANSIOS cSIOS-PIEUP cSIOS-RIEUL cSIOS-THIEUTH cSIOS-TIKEUT cSSANGCIEUC cSSANGIEUNG
    cSSANGKIYEOK cSSANGMIEUM cSSANGNIEUN cSSANGPIEUP cSSANGRIEUL cSSANGRIEUL-KHIEUKH cSSANGSIOS
    cSSANGSIOS-KIYEOK cSSANGSIOS-TIKEUT cSSANGTIKEUT cSSANGTIKEUT-PIEUP cSSANGYESIEUNG cTHIEUTH
    cTIKEUT cTIKEUT-CHIEUCH cTIKEUT-CIEUC cTIKEUT-KIYEOK cTIKEUT-PIEUP cTIKEUT-RIEUL
    cTIKEUT-SIOS cTIKEUT-SIOS-KIYEOK cTIKEUT-THIEUTH cYEORINHIEUH cYESIEUNG cYESIEUNG-HIEUH
    cYESIEUNG-KHIEUKH cYESIEUNG-KIYEOK cYESIEUNG-MIEUM cYESIEUNG-PANSIOS cYESIEUNG-SIOS
    cYESIEUNG-SSANGKIYEOK bJUNGSEONG A cA-EU cA-O cA-U cAE cARAEA cARAEA-A cARAEA-E cARAEA-EO
    cARAEA-I cARAEA-U cE cEO cEO-EU cEO-O cEO-U cEU cEU-A cEU-E cEU-EO cEU-EU cEU-O cEU-U
    cFILLER cI cI-A cI-ARAEA cI-EU cI-I cI-O cI-O-I cI-U cI-YA cI-YA-O cI-YAE cI-YE cI-YEO cI-YO
    cI-YU cO cO-E cO-EO cO-O cO-O-I cO-U cO-YA cO-YAE cO-YE cO-YEO cOE cSSANGARAEA cU cU-A cU-AE
    cU-EO-EU cU-I-I cU-U cU-YE cU-YEO cWA cWAE cWE cWEO cWI cYA cYA-O cYA-U cYA-YO cYAE cYE cYEO
    cYEO-O cYEO-U cYEO-YA cYI cYI-U cYO cYO-A cYO-AE cYO-EO cYO-I cYO-O cYO-YA cYO-YAE cYO-YEO
    cYU cYU-A cYU-AE cYU-E cYU-EO cYU-I cYU-O cYU-U cYU-YE cYU-YEO bLETTER A cAE cARAEA cARAEAE
    cCHIEUCH cCIEUC cE cEO cEU cHIEUH cI cIEUNG cKAPYEOUNMIEUM cKAPYEOUNPHIEUPH cKAPYEOUNPIEUP
    cKAPYEOUNSSANGPIEUP cKHIEUKH cKIYEOK cKIYEOK-SIOS cMIEUM cMIEUM-PANSIOS cMIEUM-PIEUP
    cMIEUM-SIOS cNIEUN cNIEUN-CIEUC cNIEUN-HIEUH cNIEUN-PANSIOS cNIEUN-SIOS cNIEUN-TIKEUT cO cOE
    cPANSIOS cPHIEUPH cPIEUP cPIEUP-CIEUC cPIEUP-KIYEOK cPIEUP-SIOS cPIEUP-SIOS-KIYEOK
    cPIEUP-SIOS-TIKEUT cPIEUP-THIEUTH cPIEUP-TIKEUT cRIEUL cRIEUL-HIEUH cRIEUL-KIYEOK
    cRIEUL-KIYEOK-SIOS cRIEUL-MIEUM cRIEUL-PANSIOS cRIEUL-PHIEUPH cRIEUL-PIEUP cRIEUL-PIEUP-SIOS
    cRIEUL-SIOS cRIEUL-THIEUTH cRIEUL-TIKEUT cRIEUL-YEORINHIEUH cSIOS cSIOS-CIEUC cSIOS-KIYEOK
    cSIOS-NIEUN cSIOS-PIEUP cSIOS-TIKEUT cSSANGCIEUC cSSANGHIEUH cSSANGIEUNG cSSANGKIYEOK
    cSSANGNIEUN cSSANGPIEUP cSSANGSIOS cSSANGTIKEUT cTHIEUTH cTIKEUT cU cWA cWAE cWE cWEO cWI
    cYA cYAE cYE cYEO cYEORINHIEUH cYESIEUNG cYESIEUNG-PANSIOS cYESIEUNG-SIOS cYI cYO cYO-I
    cYO-YA cYO-YAE cYU cYU-I cYU-YE cYU-YEO bSINGLE DOT TONE MARK aHANGZHOU NUMERAL EIGHT cFIVE
    cFOUR cNINE cONE cSEVEN cSIX cTEN cTHIRTY cTHREE cTWENTY cTWO aHANIFI ROHINGYA DIGIT EIGHT
    dFIVE dFOUR dNINE dONE dSEVEN dSIX dTHREE dTWO dZERO cLETTER A dBA dCA dDA dDDA dFA dGA dHA
    dJA dKA dKHA dKINNA WA eYA dLA dMA dNA dNGA dNYA dPA dRA dRRA dSA dSHA dTA dTTA dVA dWA dYA
    dZA cMARK NA KHONNA dSAKIN cSIGN HARBAHAY dTAHALA dTANA dTASSI cVOWEL A dE dI dO dU aHANUNOO
    LETTER A cBA cDA cGA cHA cI cKA cLA cMA cNA cNGA cPA cRA cSA cTA cU cWA cYA bSIGN PAMUDPOD
    bVOWEL SIGN I dU aHAPPY PERSON RAISING ONE HAND aHARD DISK aHATCHING CHICK aHATRAN LETTER
    ALEPH cAYN cBETH cDALETH-RESH cGIMEL cHE cHETH cKAPH cLAMEDH cMEM cNUN cPE cQOPH cSADHE
    cSAMEKH cSHIN cTAW cTETH cWAW cYODH cZAYN bNUMBER FIVE cONE dHUNDRED cTEN cTWENTY aHEADPHONE
    aHEADSTONE bGRAVEYARD SYMBOL aHEAR-NO-EVIL MONKEY aHEART DECORATION bHANDS bWITH ARROW
    cRIBBON cTIP ON THE LEFT aHEAVY AMPERSAND ORNAMENT bARROW SHAFT WIDTH ONE fHALF fTHIRD eTWO
    THIRDS bASTERISK bBALLOT X bBLACK CURVED DOWNWARDS AND RIGHTWARDS ARROW dUPWARDS AND
    RIGHTWARDS ARROW cHEART bBLACK-FEATHERED NORTH EAST ARROW cRIGHTWARDS ARROW cSOUTH EAST
    ARROW bCHECK MARK bCHEVRON SNOWFLAKE bCIRCLE cWITH CIRCLE INSIDE dSTROKE AND TWO DOTS ABOVE
    bCIRCLED SALTIRE bCONCAVE-POINTED BLACK RIGHTWARDS ARROW bDASHED TRIANGLE-HEADED RIGHTWARDS
    ARROW bDIVISION SIGN bDOLLAR SIGN bDOUBLE COMMA QUOTATION MARK ORNAMENT cTURNED COMMA
    QUOTATION MARK ORNAMENT bDOWNWARDS ARROW WITH EQUILATERAL ARROWHEAD eLARGE EQUILATERAL
    ARROWHEAD bEIGHT POINTED BLACK STAR dPINWHEEL STAR dRECTILINEAR BLACK STAR cSPOKED ASTERISK
    cTEARDROP-SPOKED PROPELLER ASTERISK bEQUALS SIGN bEXCLAMATION MARK ORNAMENT dSYMBOL bFIVE
    POINTED BLACK STAR cSPOKED ASTERISK bFOUR BALLOON-SPOKED ASTERISK bGREEK CROSS bHEART
    EXCLAMATION MARK ORNAMENT bHORIZONTAL FILL bINTERROBANG ORNAMENT bLARGE CIRCLE bLATIN CROSS
    bLEFT-POINTING ANGLE BRACKET ORNAMENT dQUOTATION MARK ORNAMENT bLEFTWARDS ARROW WITH
    EQUILATERAL ARROWHEAD eLARGE EQUILATERAL ARROWHEAD bLIGATURE OPEN ET ORNAMENT bLOW DOUBLE
    COMMA QUOTATION MARK ORNAMENT cSINGLE COMMA QUOTATION MARK ORNAMENT bLOWER RIGHT-SHADOWED
    WHITE RIGHTWARDS ARROW bMINUS SIGN bMULTIPLICATION X bNORTH EAST ARROW dPOINTING BUD eVINE
    LEAF cWEST POINTING BUD eVINE LEAF bOPEN CENTRE CROSS bOUTLINED BLACK STAR bOVAL WITH OVAL
    INSIDE bPLUS SIGN bRIGHT-POINTING ANGLE BRACKET ORNAMENT dQUOTATION MARK ORNAMENT
    bRIGHTWARDS ARROW dWITH EQUILATERAL ARROWHEAD eLARGE EQUILATERAL ARROWHEAD bROUND-TIPPED
    RIGHTWARDS ARROW bSALTIRE bSANS-SERIF INTERROBANG ORNAMENT bSCRIPT LIGATURE ET ORNAMENT
    bSINGLE COMMA QUOTATION MARK ORNAMENT cTURNED COMMA QUOTATION MARK ORNAMENT bSIX POINTED
    BLACK STAR cSPOKED ASTERISK bSOUTH EAST ARROW dPOINTING BUD eVINE LEAF cWEST POINTING BUD
    eVINE LEAF bSPARKLE bTEARDROP-SHANKED RIGHTWARDS ARROW bTEARDROP-SPOKED ASTERISK cPINWHEEL
    ASTERISK bTRIANGLE-HEADED RIGHTWARDS ARROW bTWELVE POINTED BLACK STAR dPINWHEEL STAR bUPPER
    RIGHT-SHADOWED WHITE RIGHTWARDS ARROW bUPWARDS ARROW WITH EQUILATERAL ARROWHEAD eLARGE
    EQUILATERAL ARROWHEAD bVERTICAL BAR bWEDGE-TAILED RIGHTWARDS ARROW bWHITE CIRCLE
    cDOWN-POINTING TRIANGLE cSQUARE bWIDE-HEADED RIGHTWARDS ARROW aHEBREW ACCENT ATNAH HAFUKH
    cDARGA cDEHI cETNAHTA cGERESH dMUQDAM cGERSHAYIM cILUY cMAHAPAKH cMERKHA dKEFULA cMUNAH cOLE
    cPASHTA cPAZER cQADMA cQARNEY PARA cREVIA cSEGOL cSHALSHELET cTELISHA GEDOLA dQETANA cTEVIR
    cTIPEHA cYERAH BEN YOMO cYETIV cZAQEF GADOL dQATAN cZARQA cZINOR bLETTER ALEF dWITH MAPIQ
    ePATAH eQAMATS cALTERNATIVE AYIN dPLUS SIGN cAYIN cBET dWITH DAGESH eRAFE cDALET dWITH
    DAGESH cFINAL KAF eWITH DAGESH dMEM dNUN dPE eWITH DAGESH dTSADI cGIMEL dWITH DAGESH cHE
    dWITH MAPIQ cHET cKAF dWITH DAGESH eRAFE cLAMED dWITH DAGESH cMEM dWITH DAGESH cNUN dWITH
    DAGESH cPE dWITH DAGESH eRAFE cQOF dWITH DAGESH cRESH dWITH DAGESH cSAMEKH dWITH DAGESH
    cSHIN dWITH DAGESH fAND SHIN DOT gSIN DOT eSHIN DOT eSIN DOT cTAV dWITH DAGESH cTET dWITH
    DAGESH cTSADI dWITH DAGESH cVAV dWITH DAGESH eHOLAM cWIDE ALEF dDALET dFINAL MEM dHE dKAF
    dLAMED dRESH dTAV cYOD dWITH DAGESH eHIRIQ cZAYIN dWITH DAGESH bLIGATURE ALEF LAMED cYIDDISH
    DOUBLE VAV eYOD dVAV YOD dYOD YOD PATAH bMARK LOWER DOT cMASORA CIRCLE cUPPER DOT bPOINT
    DAGESH OR MAPIQ cHATAF PATAH dQAMATS dSEGOL cHIRIQ cHOLAM dHASER FOR VAV cJUDEO-SPANISH
    VARIKA cMETEG cPATAH cQAMATS dQATAN cQUBUTS cRAFE cSEGOL cSHEVA cSHIN DOT cSIN DOT cTSERE
    bPUNCTUATION GERESH cGERSHAYIM cMAQAF cNUN HAFUKHA cPASEQ cSOF PASUQ bYOD TRIANGLE aHEDGEHOG
    aHELICOPTER aHELLSCHREIBER PAUSE SYMBOL aHELM SYMBOL aHELMET WITH WHITE CROSS aHENTAIGANA
    LETTER A-1 cA-2 cA-3 cA-WO cE-1 cE-2 cE-3 cE-4 cE-5 cE-6 cHA-1 cHA-10 cHA-11 cHA-2 cHA-3
    cHA-4 cHA-5 cHA-6 cHA-7 cHA-8 cHA-9 cHE-1 cHE-2 cHE-3 cHE-4 cHE-5 cHE-6 cHE-7 cHI-1 cHI-2
    cHI-3 cHI-4 cHI-5 cHI-6 cHI-7 cHO-1 cHO-2 cHO-3 cHO-4 cHO-5 cHO-6 cHO-7 cHO-8 cHU-1 cHU-2
    cHU-3 cI-1 cI-2 cI-3 cI-4 cKA-1 cKA-10 cKA-11 cKA-2 cKA-3 cKA-4 cKA-5 cKA-6 cKA-7 cKA-8
    cKA-9 cKA-KE cKE-1 cKE-2 cKE-3 cKE-4 cKE-5 cKE-6 cKI-1 cKI-2 cKI-3 cKI-4 cKI-5 cKI-6 cKI-7
    cKI-8 cKO-1 cKO-2 cKO-3 cKO-KI cKU-1 cKU-2 cKU-3 cKU-4 cKU-5 cKU-6 cKU-7 cMA-1 cMA-2 cMA-3
    cMA-4 cMA-5 cMA-6 cMA-7 cME-1 cME-2 cME-MA cMI-1 cMI-2 cMI-3 cMI-4 cMI-5 cMI-6 cMI-7 cMO-1
    cMO-2 cMO-3 cMO-4 cMO-5 cMO-6 cMU-1 cMU-2 cMU-3 cMU-4 cN-MU-MO-1 cN-MU-MO-2 cNA-1 cNA-2
    cNA-3 cNA-4 cNA-5 cNA-6 cNA-7 cNA-8 cNA-9 cNE-1 cNE-2 cNE-3 cNE-4 cNE-5 cNE-6 cNE-KO cNI-1
    cNI-2 cNI-3 cNI-4 cNI-5 cNI-6 cNI-7 cNI-TE cNO-1 cNO-2 cNO-3 cNO-4 cNO-5 cNU-1 cNU-2 cNU-3
    cO-1 cO-2 cO-3 cRA-1 cRA-2 cRA-3 cRA-4 cRE-1 cRE-2 cRE-3 cRE-4 cRI-1 cRI-2 cRI-3 cRI-4 cRI-5
    cRI-6 cRI-7 cRO-1 cRO-2 cRO-3 cRO-4 cRO-5 cRO-6 cRU-1 cRU-2 cRU-3 cRU-4 cRU-5 cRU-6 cSA-1
    cSA-2 cSA-3 cSA-4 cSA-5 cSA-6 cSA-7 cSA-8 cSE-1 cSE-2 cSE-3 cSE-4 cSE-5 cSI-1 cSI-2 cSI-3
    cSI-4 cSI-5 cSI-6 cSO-1 cSO-2 cSO-3 cSO-4 cSO-5 cSO-6 cSO-7 cSU-1 cSU-2 cSU-3 cSU-4 cSU-5
    cSU-6 cSU-7 cSU-8 cTA-1 cTA-2 cTA-3 cTA-4 cTE-1 cTE-2 cTE-3 cTE-4 cTE-5 cTE-6 cTE-7 cTE-8
    cTE-9 cTI-1 cTI-2 cTI-3 cTI-4 cTI-5 cTI-6 cTI-7 cTO-1 cTO-2 cTO-3 cTO-4 cTO-5 cTO-6 cTO-RA
    cTU-1 cTU-2 cTU-3 cTU-4 cTU-TO cU-1 cU-2 cU-3 cU-4 cU-5 cWA-1 cWA-2 cWA-3 cWA-4 cWA-5 cWE-1
    cWE-2 cWE-3 cWE-4 cWI-1 cWI-2 cWI-3 cWI-4 cWI-5 cWO-1 cWO-2 cWO-3 cWO-4 cWO-5 cWO-6 cWO-7
    cYA-1 cYA-2 cYA-3 cYA-4 cYA-5 cYA-YO cYO-1 cYO-2 cYO-3 cYO-4 cYO-5 cYO-6 cYU-1 cYU-2 cYU-3
    cYU-4 aHERB aHERMITIAN CONJUGATE MATRIX aHEXAGRAM FOR ABUNDANCE cAFTER COMPLETION cAPPROACH
    cBEFORE COMPLETION cBITING THROUGH cBREAKTHROUGH cCOMING TO MEET cCONFLICT cCONTEMPLATION
    cDARKENING OF THE LIGHT cDECREASE cDELIVERANCE cDEVELOPMENT cDIFFICULTY AT THE BEGINNING
    cDISPERSION cDURATION cENTHUSIASM cFELLOWSHIP cFOLLOWING cGATHERING TOGETHER cGRACE cGREAT
    POSSESSION dPOWER dPREPONDERANCE dTAMING cHOLDING TOGETHER cINCREASE cINFLUENCE cINNER TRUTH
    cINNOCENCE cLIMITATION cMODESTY cMOUTH CORNERS cOBSTRUCTION cOPPOSITION cOPPRESSION cPEACE
    cPROGRESS cPUSHING UPWARD cRETREAT cRETURN cREVOLUTION cSMALL PREPONDERANCE dTAMING
    cSPLITTING APART cSTANDSTILL cTHE ABYSMAL WATER dARMY dAROUSING THUNDER dCAULDRON dCLINGING
    FIRE dCREATIVE HEAVEN dFAMILY dGENTLE WIND dJOYOUS LAKE dKEEPING STILL MOUNTAIN dMARRYING
    MAIDEN dRECEPTIVE EARTH dWANDERER dWELL cTREADING cWAITING cWORK ON THE DECAYED cYOUTHFUL
    FOLLY aHIBISCUS aHIGH BRIGHTNESS SYMBOL bOCTET PRESET bVOLTAGE SIGN aHIGH-HEELED SHOE
    aHIGH-SPEED TRAIN cWITH BULLET NOSE aHIKING BOOT aHINDU TEMPLE aHIPPOPOTAMUS aHIRAGANA
    DIGRAPH YORI bITERATION MARK bLETTER A cARCHAIC WU dYE cBA cBE cBI cBO cBU cDA cDE cDI cDO
    cDU cE cGA cGE cGI cGO cGU cHA cHE cHI cHO cHU cI cKA cKE cKI cKO cKU cMA cME cMI cMO cMU cN
    cNA cNE cNI cNO cNU cO cPA cPE cPI cPO cPU cRA cRE cRI cRO cRU cSA cSE cSI cSMALL A dE dI
    dKA dKE dO dTU dU dWA dWE dWI dWO dYA dYO dYU cSO cSU cTA cTE cTI cTO cTU cU cVU cWA cWE cWI
    cWO cYA cYO cYU cZA cZE cZI cZO cZU bVOICED ITERATION MARK aHISTORIC SITE aHOCHO aHOLE
    aHOLLOW QUILT SQUARE ORNAMENT eIN BLACK SQUARE aHOMOTHETIC aHONEY POT aHONEYBEE aHOOK aHOP
    aHORIZONTAL BAR bBLACK HEXAGON cOCTAGON bELLIPSIS bLINE EXTENSION bMALE WITH STROKE SIGN
    bONE EIGHTH BLOCK-1358 dBLOCK-2 dBLOCK-3 dBLOCK-4 dBLOCK-5 dBLOCK-6 dBLOCK-7 bSCAN LINE-1
    cLINE-3 cLINE-7 cLINE-9 bTAB KEY bTABULATION cSET cWITH JUSTIFICATION bTRAFFIC LIGHT aHORSE
    bFACE bRACING aHOSPITAL aHOT BEVERAGE bDOG bPEPPER bSPRINGS aHOTEL aHOURGLASS bWITH FLOWING
    SAND aHOUSE bBUILDING bBUILDINGS bWITH GARDEN aHRYVNIA SIGN aHT aHTJ aHTS aHUGGING FACE
    aHUNDRED POINTS SYMBOL aHUSHED FACE aHUT aHYGIEA aHYPHEN bBULLET bWITH DIAERESIS
    aHYPHEN-MINUS aHYPHENATION POINT aHYPODIASTOLE aHYSTERESIS SYMBOL"

end SecurityRules.CharacterName
