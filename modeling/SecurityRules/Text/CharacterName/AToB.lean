/-!
# Names of characters from A to B

An outline in words: a lower-case letter starts each name and says how many
words the name shares with the one before it, `a` for none, `b` for one and so
on. The words that it does not share follow.
-/

namespace SecurityRules.CharacterName

def namesFromAToB : String :=
  "aABACUS aAC CURRENT aACCORDION aACCOUNT OF aACK aACKNOWLEDGE aACTIVATE ARABIC FORM SHAPING
    bSYMMETRIC SWAPPING aACUTE ACCENT bANGLE aADDRESSED TO THE SUBJECT aADHESIVE BANDAGE aADI
    SHAKTI aADLAM ALIF LENGTHENER bCAPITAL LETTER ALIF dBA dBHE dCHI dDAALI dDHA dE dFA dGA dGBE
    dHA dI dJIIM dKAF dKHA dKPO dLAAM dMIIM dNHA dNUN dNYA dO dPE dQAAF dRA dSHA dSINNYIIYHE dTU
    dU dVA dWAW dYA dYHE dZAL bCONSONANT MODIFIER bDIGIT EIGHT cFIVE cFOUR cNINE cONE cSEVEN
    cSIX cTHREE cTWO cZERO bGEMINATE CONSONANT MODIFIER bGEMINATION MARK bHAMZA bINITIAL
    EXCLAMATION MARK cQUESTION MARK bNASALIZATION MARK bNUKTA bSMALL LETTER ALIF dBA dBHE dCHI
    dDAALI dDHA dE dFA dGA dGBE dHA dI dJIIM dKAF dKHA dKPO dLAAM dMIIM dNHA dNUN dNYA dO dPE
    dQAAF dRA dSHA dSINNYIIYHE dTU dU dVA dWAW dYA dYHE dZAL bVOWEL LENGTHENER aADMETOS
    aADMISSION TICKETS aADULT aAEGEAN CHECK MARK bDRY MEASURE FIRST SUBUNIT bLIQUID MEASURE
    FIRST SUBUNIT bMEASURE SECOND SUBUNIT cTHIRD SUBUNIT bNUMBER EIGHT dHUNDRED dTHOUSAND
    cEIGHTY dTHOUSAND cFIFTY dTHOUSAND cFIVE dHUNDRED dTHOUSAND cFORTY dTHOUSAND cFOUR dHUNDRED
    dTHOUSAND cNINE dHUNDRED dTHOUSAND cNINETY dTHOUSAND cONE dHUNDRED dTHOUSAND cSEVEN dHUNDRED
    dTHOUSAND cSEVENTY dTHOUSAND cSIX dHUNDRED dTHOUSAND cSIXTY dTHOUSAND cTEN dTHOUSAND cTHIRTY
    dTHOUSAND cTHREE dHUNDRED dTHOUSAND cTWENTY dTHOUSAND cTWO dHUNDRED dTHOUSAND bWEIGHT BASE
    UNIT cFIRST SUBUNIT cFOURTH SUBUNIT cSECOND SUBUNIT cTHIRD SUBUNIT bWORD SEPARATOR DOT dLINE
    aAERIAL TRAMWAY aAFGHANI SIGN aAHOM CONSONANT SIGN MEDIAL LA eLIGATING RA eRA bDIGIT EIGHT
    cFIVE cFOUR cNINE cONE cSEVEN cSIX cTHREE cTWO cZERO bLETTER A cALTERNATE BA dGA dTA cBA
    cBHA cCA cCHA cDA cDDA cDDHA cDHA cGA cGHA cHA cJA cJHA cKA cKHA cLA cLLA cMA cNA cNGA cNNA
    cNYA cPA cPHA cRA cSA cTA cTHA cTTA cTTHA bNUMBER TEN cTWENTY bSIGN KILLER cRULAI cSECTION
    cSMALL SECTION bSYMBOL VI bVOWEL SIGN A dAA dAI dAM dAW dE dI dII dO dU dUU aAIRPLANE
    bARRIVING bDEPARTURE aAKTIESELSKAB aALARM CLOCK aALCHEMICAL SYMBOL FOR AIR dALEMBIC dALKALI
    dALKALI-2 dALUM dAMALGAM dANTIMONY ORE dAQUA REGIA eREGIA-2 eVITAE eVITAE-2 dAQUAFORTIS
    dARSENIC dASHES dAURIPIGMENT dBATH OF MARY fVAPOURS dBISMUTH ORE dBLACK SULFUR dBORAX
    dBORAX-2 dBORAX-3 dBRICK dCADUCEUS dCALX dCAPUT MORTUUM dCINNABAR dCOPPER ANTIMONIATE eORE
    dCROCUS OF COPPER fCOPPER-2 fIRON dCRUCIBLE dCRUCIBLE-2 dCRUCIBLE-3 dCRUCIBLE-4 dCRUCIBLE-5
    dDAY-NIGHT dDISSOLVE dDISSOLVE-2 dDISTILL dEARTH dFIRE dGOLD dGUM dHALF DRAM eOUNCE dHORSE
    DUNG dHOUR dIRON ORE eORE-2 dIRON-COPPER ORE dLEAD ORE dLODESTONE dMARCASITE dMERCURY
    SUBLIMATE eSUBLIMATE-2 eSUBLIMATE-3 dMONTH dNIGHT dNITRE dOIL dPHILOSOPHERS SULFUR dPOT
    ASHES dPOWDER dPOWDERED BRICK dPRECIPITATE dPURIFY dPUTREFACTION dQUICK LIME dQUINTESSENCE
    dREALGAR dREALGAR-2 dREGULUS eOF ANTIMONY fANTIMONY-2 fIRON dREGULUS-2 dREGULUS-3 dREGULUS-4
    dRETORT dROCK SALT eSALT-2 dSAL-AMMONIAC dSALT eOF ANTIMONY fCOPPER ANTIMONIATE dSCEPTER OF
    JOVE dSILVER dSOAP dSPIRIT dSTARRED TRIDENT dSTRATUM SUPER STRATUM fSTRATUM-2 dSUBLIMATE OF
    ANTIMONY fCOPPER fSALT OF ANTIMONY hCOPPER dSUBLIMATION dSULFUR dTARTAR dTARTAR-2 dTIN ORE
    dTINCTURE dTRIDENT dTUTTY dURINE dVERDIGRIS dVINEGAR eOF ANTIMONY dVINEGAR-2 dVINEGAR-3
    dVITRIOL dVITRIOL-2 dWATER dWAX aALEF SYMBOL aALEMBIC aALERT aALIEN MONSTER aALL
    AROUND-PROFILE bEQUAL TO aALM aALMOST EQUAL OR EQUAL TO cTO dWITH CIRCUMFLEX ACCENT
    aALTERNATE ONE-WAY LEFT WAY TRAFFIC aALTERNATIVE KEY SYMBOL aAMALGAMATION OR COPRODUCT
    aAMBULANCE aAMERICAN FOOTBALL aAMPERSAND aAMPHORA aANATOLIAN HIEROGLYPH A001 cA002 cA003
    cA004 cA005 cA006 cA007 cA008 cA009 cA010 cA010A cA011 cA012 cA013 cA014 cA015 cA016 cA017
    cA018 cA019 cA020 cA021 cA022 cA023 cA024 cA025 cA026 cA026A cA027 cA028 cA029 cA030 cA031
    cA032 cA033 cA034 cA035 cA036 cA037 cA038 cA039 cA039A cA040 cA041 cA041A cA042 cA043 cA044
    cA045 cA045A cA046 cA046A cA046B cA047 cA048 cA049 cA050 cA051 cA052 cA053 cA054 cA055 cA056
    cA057 cA058 cA059 cA060 cA061 cA062 cA063 cA064 cA065 cA066 cA066A cA066B cA066C cA067 cA068
    cA069 cA070 cA071 cA072 cA073 cA074 cA075 cA076 cA077 cA078 cA079 cA080 cA081 cA082 cA083
    cA084 cA085 cA086 cA087 cA088 cA089 cA090 cA091 cA092 cA093 cA094 cA095 cA096 cA097 cA097A
    cA098 cA098A cA099 cA100 cA100A cA101 cA101A cA102 cA102A cA103 cA104 cA104A cA104B cA104C
    cA105 cA105A cA105B cA106 cA107 cA107A cA107B cA107C cA108 cA109 cA110 cA110A cA110B cA111
    cA112 cA113 cA114 cA115 cA115A cA116 cA117 cA118 cA119 cA120 cA121 cA122 cA123 cA124 cA125
    cA125A cA126 cA127 cA128 cA129 cA130 cA131 cA132 cA133 cA134 cA135 cA135A cA136 cA137 cA138
    cA139 cA140 cA141 cA142 cA143 cA144 cA145 cA146 cA147 cA148 cA149 cA150 cA151 cA152 cA153
    cA154 cA155 cA156 cA157 cA158 cA159 cA160 cA161 cA162 cA163 cA164 cA165 cA166 cA167 cA168
    cA169 cA170 cA171 cA172 cA173 cA174 cA175 cA176 cA177 cA178 cA179 cA180 cA181 cA182 cA183
    cA184 cA185 cA186 cA187 cA188 cA189 cA190 cA191 cA192 cA193 cA194 cA195 cA196 cA197 cA198
    cA199 cA200 cA201 cA202 cA202A cA202B cA203 cA204 cA205 cA206 cA207 cA207A cA208 cA209
    cA209A cA210 cA211 cA212 cA213 cA214 cA215 cA215A cA216 cA216A cA217 cA218 cA219 cA220 cA221
    cA222 cA223 cA224 cA225 cA226 cA227 cA227A cA228 cA229 cA230 cA231 cA232 cA233 cA234 cA235
    cA236 cA237 cA238 cA239 cA240 cA241 cA242 cA243 cA244 cA245 cA246 cA247 cA248 cA249 cA250
    cA251 cA252 cA253 cA254 cA255 cA256 cA257 cA258 cA259 cA260 cA261 cA262 cA263 cA264 cA265
    cA266 cA267 cA267A cA268 cA269 cA270 cA271 cA272 cA273 cA274 cA275 cA276 cA277 cA278 cA279
    cA280 cA281 cA282 cA283 cA284 cA285 cA286 cA287 cA288 cA289 cA289A cA290 cA291 cA292 cA293
    cA294 cA294A cA295 cA296 cA297 cA298 cA299 cA299A cA300 cA301 cA302 cA303 cA304 cA305 cA306
    cA307 cA308 cA309 cA309A cA310 cA311 cA312 cA313 cA314 cA315 cA316 cA317 cA318 cA319 cA320
    cA321 cA322 cA323 cA324 cA325 cA326 cA327 cA328 cA329 cA329A cA330 cA331 cA332A cA332B
    cA332C cA333 cA334 cA335 cA336 cA336A cA336B cA336C cA337 cA338 cA339 cA340 cA341 cA342
    cA343 cA344 cA345 cA346 cA347 cA348 cA349 cA350 cA351 cA352 cA353 cA354 cA355 cA356 cA357
    cA358 cA359 cA359A cA360 cA361 cA362 cA363 cA364 cA364A cA365 cA366 cA367 cA368 cA368A cA369
    cA370 cA371 cA371A cA372 cA373 cA374 cA375 cA376 cA377 cA378 cA379 cA380 cA381 cA381A cA382
    cA383 RA OR RI cA383A cA384 cA385 cA386 cA386A cA387 cA388 cA389 cA390 cA391 cA392 cA393
    EIGHT cA394 cA395 cA396 cA397 cA398 cA399 cA400 cA401 cA402 cA403 cA404 cA405 cA406 cA407
    cA408 cA409 cA410 BEGIN LOGOGRAM MARK cA410A END LOGOGRAM MARK cA411 cA412 cA413 cA414 cA415
    cA416 cA417 cA418 cA419 cA420 cA421 cA422 cA423 cA424 cA425 cA426 cA427 cA428 cA429 cA430
    cA431 cA432 cA433 cA434 cA435 cA436 cA437 cA438 cA439 cA440 cA441 cA442 cA443 cA444 cA445
    cA446 cA447 cA448 cA449 cA450 cA450A cA451 cA452 cA453 cA454 cA455 cA456 cA457 cA457A cA458
    cA459 cA460 cA461 cA462 cA463 cA464 cA465 cA466 cA467 cA468 cA469 cA470 cA471 cA472 cA473
    cA474 cA475 cA476 cA477 cA478 cA479 cA480 cA481 cA482 cA483 cA484 cA485 cA486 cA487 cA488
    cA489 cA490 cA491 cA492 cA493 cA494 cA495 cA496 cA497 cA501 cA502 cA503 cA504 cA505 cA506
    cA507 cA508 cA509 cA510 cA511 cA512 cA513 cA514 cA515 cA516 cA517 cA518 cA519 cA520 cA521
    cA522 cA523 cA524 cA525 cA526 cA527 cA528 cA529 cA530 aANATOMICAL HEART aANCHOR aAND WITH
    DOT aANGER SYMBOL aANGLE bWITH S INSIDE cUNDERBAR aANGRY FACE aANGSTROM SIGN aANGUISHED FACE
    aANKH aANT aANTENNA WITH BARS aANTICLOCKWISE CLOSED CIRCLE ARROW bCONTOUR INTEGRAL
    bDOWNWARDS AND UPWARDS OPEN CIRCLE ARROWS bGAPPED CIRCLE ARROW bINTEGRATION bOPEN CIRCLE
    ARROW bTOP SEMICIRCLE ARROW bTRIANGLE-HEADED BOTTOM U-SHAPED ARROW cLEFT U-SHAPED ARROW
    cOPEN CIRCLE ARROW cRIGHT U-SHAPED ARROW cTOP U-SHAPED ARROW aAPC aAPL FUNCTIONAL SYMBOL
    ALPHA eUNDERBAR dBACKSLASH BAR dCIRCLE BACKSLASH eDIAERESIS eJOT eSTAR eSTILE eUNDERBAR
    dCOMMA BAR dDEL DIAERESIS eSTILE eTILDE dDELTA STILE eUNDERBAR dDIAMOND UNDERBAR dDOWN CARET
    TILDE eSHOE STILE eTACK JOT fUNDERBAR dDOWNWARDS VANE dEPSILON UNDERBAR dGREATER-THAN
    DIAERESIS dI-BEAM dIOTA eUNDERBAR dJOT DIAERESIS eUNDERBAR dLEFT SHOE STILE dLEFTWARDS VANE
    dOMEGA eUNDERBAR dQUAD eBACKSLASH eCIRCLE eCOLON eDEL eDELTA eDIAMOND eDIVIDE eDOWN CARET
    eDOWNWARDS ARROW eEQUAL eGREATER-THAN eJOT eLEFTWARDS ARROW eLESS-THAN eNOT EQUAL eQUESTION
    eRIGHTWARDS ARROW eSLASH eUP CARET eUPWARDS ARROW dQUOTE QUAD eUNDERBAR dRHO dRIGHTWARDS
    VANE dSEMICOLON UNDERBAR dSLASH BAR dSQUISH QUAD dSTAR DIAERESIS dSTILE TILDE dTILDE
    DIAERESIS dUP CARET TILDE eSHOE JOT eTACK DIAERESIS fJOT fOVERBAR dUPWARDS VANE dZILDE
    aAPOLLON aAPOSTROPHE aAPPLICATION PROGRAM COMMAND aAPPROACHES THE LIMIT aAPPROXIMATELY BUT
    NOT ACTUALLY EQUAL TO bEQUAL OR EQUAL TO cTO dOR THE IMAGE OF aAQUARIUS aARABIC BASELINE
    ROUND DOT bCOMMA bCURLY DAMMA cDAMMATAN cFATHA cFATHATAN cKASRA cKASRATAN bDAMMA cISOLATED
    FORM cMEDIAL FORM cWITH DOT bDAMMATAN cISOLATED FORM bDATE SEPARATOR bDECIMAL SEPARATOR
    bDISPUTED END OF AYAH bDOUBLE RIGHT ARROWHEAD ABOVE fWITH DOT bDOUBLED MADDA bEMPTY CENTRE
    HIGH STOP dLOW STOP bEND OF AYAH dTEXT MARK bFATHA cISOLATED FORM cMEDIAL FORM cWITH DOT
    ABOVE dRING dTWO DOTS bFATHATAN cISOLATED FORM bFIVE POINTED STAR bFOOTNOTE MARKER bFULL
    STOP bHALF MADDA OVER MADDA bHAMZA ABOVE cBELOW bINVERTED DAMMA bKASRA cISOLATED FORM
    cMEDIAL FORM cWITH DOT BELOW bKASRATAN cISOLATED FORM bLARGE CIRCLE BELOW cROUND DOT ABOVE
    eBELOW eINSIDE CIRCLE BELOW bLEFT ARROWHEAD ABOVE dBELOW bLETTER AE cAFRICAN FEH dNOON dQAF
    eWITH THREE DOTS ABOVE cAIN dFINAL FORM dINITIAL FORM dISOLATED FORM dMEDIAL FORM dWITH
    THREE DOTS ABOVE gBELOW gPOINTING DOWNWARDS ABOVE eTWO DOTS ABOVE gVERTICALLY ABOVE cALEF
    dFINAL FORM dISOLATED FORM dMAKSURA eFINAL FORM eISOLATED FORM dWASLA eFINAL FORM eISOLATED
    FORM dWITH ATTACHED BOTTOM RIGHT KASRA iAND DOT ABOVE jLEFT RING fFATHA fKASRA fLEFT HAMZA
    gROUND DOT fRIGHT HAMZA gROUND DOT fROUND DOT ABOVE hBELOW fTOP RIGHT FATHA iAND DOT ABOVE
    jLEFT RING eDOT ABOVE eEXTENDED ARABIC-INDIC DIGIT THREE ABOVE hTWO ABOVE eHAMZA ABOVE
    gFINAL FORM gISOLATED FORM fBELOW gFINAL FORM gISOLATED FORM eLEFT MIDDLE STROKE eMADDA
    ABOVE gFINAL FORM gISOLATED FORM eRIGHT MIDDLE STROKE hAND DOT ABOVE iLEFT RING eWAVY HAMZA
    ABOVE gBELOW cBEEH dFINAL FORM dINITIAL FORM dISOLATED FORM dMEDIAL FORM cBEH dFINAL FORM
    dINITIAL FORM dISOLATED FORM dMEDIAL FORM dWITH DOT BELOW AND THREE DOTS ABOVE eHAMZA ABOVE
    eINVERTED SMALL V BELOW eSMALL MEEM ABOVE fV gBELOW eTHREE DOTS HORIZONTALLY BELOW gPOINTING
    UPWARDS BELOW jAND TWO DOTS ABOVE eTWO DOTS BELOW AND DOT ABOVE cBEHEH dFINAL FORM dINITIAL
    FORM dISOLATED FORM dMEDIAL FORM cDAD dFINAL FORM dINITIAL FORM dISOLATED FORM dMEDIAL FORM
    dWITH DOT BELOW cDAHAL dFINAL FORM dISOLATED FORM cDAL dFINAL FORM dISOLATED FORM dWITH DOT
    BELOW gAND SMALL TAH eFOUR DOTS ABOVE eINVERTED SMALL V BELOW fV eRING eTHREE DOTS ABOVE
    DOWNWARDS gBELOW eTWO DOTS VERTICALLY BELOW AND SMALL TAH cDDAHAL dFINAL FORM dISOLATED FORM
    cDDAL dFINAL FORM dISOLATED FORM cDOTLESS BEH dFEH dQAF cDUL dFINAL FORM dISOLATED FORM
    cDYEH dFINAL FORM dINITIAL FORM dISOLATED FORM dMEDIAL FORM cE dFINAL FORM dINITIAL FORM
    dISOLATED FORM dMEDIAL FORM cFARSI YEH eFINAL FORM eINITIAL FORM eISOLATED FORM eMEDIAL FORM
    eWITH EXTENDED ARABIC-INDIC DIGIT FOUR BELOW iTHREE ABOVE iTWO ABOVE fINVERTED V fTHREE DOTS
    ABOVE fTWO DOTS ABOVE cFEH dFINAL FORM dINITIAL FORM dISOLATED FORM dMEDIAL FORM dWITH DOT
    BELOW gAND THREE DOTS ABOVE fMOVED BELOW eTHREE DOTS BELOW gPOINTING UPWARDS BELOW eTWO DOTS
    BELOW cGAF dFINAL FORM dINITIAL FORM dISOLATED FORM dMEDIAL FORM dWITH INVERTED STROKE eRING
    eTHREE DOTS ABOVE eTWO DOTS BELOW cGHAIN dFINAL FORM dINITIAL FORM dISOLATED FORM dMEDIAL
    FORM dWITH DOT BELOW eTHREE DOTS ABOVE cGRAF cGUEH dFINAL FORM dINITIAL FORM dISOLATED FORM
    dMEDIAL FORM cHAH dFINAL FORM dINITIAL FORM dISOLATED FORM dMEDIAL FORM dWITH EXTENDED
    ARABIC-INDIC DIGIT FOUR BELOW eHAMZA ABOVE eINVERTED SMALL V BELOW eSMALL ARABIC LETTER TAH
    ABOVE iAND TWO DOTS iBELOW eTHREE DOTS ABOVE gPOINTING UPWARDS BELOW eTWO DOTS ABOVE
    gVERTICAL ABOVE cHAMZA dISOLATED FORM cHEH dDOACHASHMEE eFINAL FORM eINITIAL FORM eISOLATED
    FORM eMEDIAL FORM dFINAL FORM dGOAL eFINAL FORM eINITIAL FORM eISOLATED FORM eMEDIAL FORM
    eWITH HAMZA ABOVE dINITIAL FORM dISOLATED FORM dMEDIAL FORM dWITH INVERTED V eYEH ABOVE
    gFINAL FORM gISOLATED FORM cHIGH HAMZA eALEF eWAW eYEH cJEEM dFINAL FORM dINITIAL FORM
    dISOLATED FORM dMEDIAL FORM dWITH THREE DOTS ABOVE gBELOW eTWO DOTS ABOVE cJEH dFINAL FORM
    dISOLATED FORM cKAF dFINAL FORM dINITIAL FORM dISOLATED FORM dMEDIAL FORM dWITH DOT ABOVE
    fBELOW eRING eTHREE DOTS BELOW eTWO DOTS ABOVE cKASHMIRI YEH cKEHEH dFINAL FORM dINITIAL
    FORM dISOLATED FORM dMEDIAL FORM dWITH DOT ABOVE eSMALL V eTHREE DOTS ABOVE gBELOW gPOINTING
    UPWARDS BELOW eTWO DOTS ABOVE gVERTICALLY BELOW cKHAH dFINAL FORM dINITIAL FORM dISOLATED
    FORM dMEDIAL FORM cKIRGHIZ OE eFINAL FORM eISOLATED FORM dYU eFINAL FORM eISOLATED FORM cLAM
    dFINAL FORM dINITIAL FORM dISOLATED FORM dMEDIAL FORM dWITH BAR eDOT ABOVE eDOUBLE BAR
    eSMALL ARABIC LETTER TAH ABOVE fV eTHREE DOTS ABOVE gBELOW cLOW ALEF cMARK cMEEM dFINAL FORM
    dINITIAL FORM dISOLATED FORM dMEDIAL FORM dWITH DOT ABOVE fBELOW eTHREE DOTS ABOVE cNG
    dFINAL FORM dINITIAL FORM dISOLATED FORM dMEDIAL FORM cNGOEH dFINAL FORM dINITIAL FORM
    dISOLATED FORM dMEDIAL FORM cNOON dFINAL FORM dGHUNNA eFINAL FORM eISOLATED FORM dINITIAL
    FORM dISOLATED FORM dMEDIAL FORM dWITH DOT BELOW eINVERTED SMALL V eRING eSMALL TAH fV
    eTHREE DOTS ABOVE eTWO DOTS BELOW cNYEH dFINAL FORM dINITIAL FORM dISOLATED FORM dMEDIAL
    FORM cOE dFINAL FORM dISOLATED FORM cPEH dFINAL FORM dINITIAL FORM dISOLATED FORM dMEDIAL
    FORM dWITH SMALL MEEM ABOVE fV cPEHEH dFINAL FORM dINITIAL FORM dISOLATED FORM dMEDIAL FORM
    cQAF dFINAL FORM dINITIAL FORM dISOLATED FORM dMEDIAL FORM dWITH DOT ABOVE fBELOW gAND NO
    DOTS ABOVE eTHREE DOTS ABOVE cREH dFINAL FORM dISOLATED FORM dWITH DOT BELOW gAND DOT ABOVE
    eFOUR DOTS ABOVE eHAMZA ABOVE eINVERTED V eLOOP eRING eSMALL ARABIC LETTER TAH AND TWO DOTS
    fNOON ABOVE fV gBELOW eSTROKE eTWO DOTS ABOVE gVERTICALLY ABOVE cRNOON dFINAL FORM dINITIAL
    FORM dISOLATED FORM dMEDIAL FORM cROHINGYA YEH cRREH dFINAL FORM dISOLATED FORM cSAD dFINAL
    FORM dINITIAL FORM dISOLATED FORM dMEDIAL FORM dWITH THREE DOTS ABOVE gBELOW eTWO DOTS BELOW
    cSEEN dFINAL FORM dINITIAL FORM dISOLATED FORM dMEDIAL FORM dWITH DOT BELOW AND DOT ABOVE
    eEXTENDED ARABIC-INDIC DIGIT FOUR ABOVE eFOUR DOTS ABOVE eINVERTED V eSMALL ARABIC LETTER
    TAH AND TWO DOTS eTHREE DOTS BELOW hAND THREE DOTS ABOVE eTWO DOTS VERTICALLY ABOVE cSHEEN
    dFINAL FORM dINITIAL FORM dISOLATED FORM dMEDIAL FORM dWITH DOT BELOW cSTRAIGHT WAW
    cSUPERSCRIPT ALEF cSWASH KAF cTAH dFINAL FORM dINITIAL FORM dISOLATED FORM dMEDIAL FORM
    dWITH DOT BELOW eTHREE DOTS ABOVE gBELOW eTWO DOTS ABOVE cTCHEH dFINAL FORM dINITIAL FORM
    dISOLATED FORM dMEDIAL FORM dWITH DOT ABOVE eSMALL V cTCHEHEH dFINAL FORM dINITIAL FORM
    dISOLATED FORM dMEDIAL FORM cTEH dFINAL FORM dINITIAL FORM dISOLATED FORM dMARBUTA eFINAL
    FORM eGOAL eISOLATED FORM dMEDIAL FORM dWITH RING eSMALL TEH ABOVE fV eTHREE DOTS ABOVE
    DOWNWARDS cTEHEH dFINAL FORM dINITIAL FORM dISOLATED FORM dMEDIAL FORM cTHAL dFINAL FORM
    dISOLATED FORM cTHEH dFINAL FORM dINITIAL FORM dISOLATED FORM dMEDIAL FORM cTHIN YEH cTTEH
    dFINAL FORM dINITIAL FORM dISOLATED FORM dMEDIAL FORM dWITH SMALL V cTTEHEH dFINAL FORM
    dINITIAL FORM dISOLATED FORM dMEDIAL FORM cU dFINAL FORM dISOLATED FORM dWITH HAMZA ABOVE
    gISOLATED FORM cUIGHUR KAZAKH KIRGHIZ ALEF MAKSURA INITIAL FORM hMEDIAL FORM cVE dFINAL FORM
    dISOLATED FORM cVEH dFINAL FORM dINITIAL FORM dISOLATED FORM dMEDIAL FORM cWAW dFINAL FORM
    dISOLATED FORM dWITH DOT ABOVE fWITHIN eEXTENDED ARABIC-INDIC DIGIT THREE ABOVE hTWO ABOVE
    eHAMZA ABOVE gFINAL FORM gISOLATED FORM eRING eTWO DOTS ABOVE cYEH dBARREE eFINAL FORM
    eISOLATED FORM eWITH EXTENDED ARABIC-INDIC DIGIT THREE ABOVE iTWO ABOVE fHAMZA ABOVE hFINAL
    FORM hISOLATED FORM dFINAL FORM dINITIAL FORM dISOLATED FORM dMEDIAL FORM dWITH HAMZA ABOVE
    gFINAL FORM gINITIAL FORM gISOLATED FORM gMEDIAL FORM eSMALL V eTAIL eTHREE DOTS BELOW eTWO
    DOTS BELOW AND DOT ABOVE iHAMZA ABOVE iSMALL NOON ABOVE cYU dFINAL FORM dISOLATED FORM cZAH
    dFINAL FORM dINITIAL FORM dISOLATED FORM dMEDIAL FORM cZAIN dFINAL FORM dISOLATED FORM dWITH
    INVERTED V ABOVE bLIGATURE AIN WITH ALEF MAKSURA FINAL FORM gISOLATED FORM eJEEM INITIAL
    FORM fISOLATED FORM fWITH MEEM FINAL FORM hINITIAL FORM eMEEM INITIAL FORM fISOLATED FORM
    fWITH ALEF MAKSURA FINAL FORM gMEEM FINAL FORM hINITIAL FORM gYEH FINAL FORM eYEH FINAL FORM
    fISOLATED FORM cAKBAR ISOLATED FORM cALAYHAA AS-SALAAM cALAYHE ISOLATED FORM cALAYHI
    AS-SALAAM dAS-SALAATU WAS-SALAAM cALAYHIM AS-SALAAM cALAYHIMAA AS-SALAAM cALEF MAKSURA WITH
    SUPERSCRIPT ALEF FINAL FORM hISOLATED FORM dWITH FATHATAN FINAL FORM fISOLATED FORM cALLAH
    ISOLATED FORM cAZZA WA JALL cBEH WITH ALEF MAKSURA FINAL FORM gISOLATED FORM eHAH INITIAL
    FORM fISOLATED FORM fWITH YEH FINAL FORM eHEH INITIAL FORM fMEDIAL FORM eJEEM INITIAL FORM
    fISOLATED FORM eKHAH INITIAL FORM fISOLATED FORM fWITH YEH FINAL FORM eMEEM FINAL FORM
    fINITIAL FORM fISOLATED FORM fMEDIAL FORM eNOON FINAL FORM eREH FINAL FORM eYEH FINAL FORM
    fISOLATED FORM eZAIN FINAL FORM cBISMILLAH AR-RAHMAN AR-RAHEEM cDAD WITH ALEF MAKSURA FINAL
    FORM gISOLATED FORM eHAH INITIAL FORM fISOLATED FORM fWITH ALEF MAKSURA FINAL FORM gYEH
    FINAL FORM eJEEM INITIAL FORM fISOLATED FORM eKHAH INITIAL FORM fISOLATED FORM fWITH MEEM
    FINAL FORM hINITIAL FORM eMEEM INITIAL FORM fISOLATED FORM eREH FINAL FORM fISOLATED FORM
    eYEH FINAL FORM fISOLATED FORM cFEH WITH ALEF MAKSURA FINAL FORM gISOLATED FORM eHAH INITIAL
    FORM fISOLATED FORM eJEEM INITIAL FORM fISOLATED FORM eKHAH INITIAL FORM fISOLATED FORM
    fWITH MEEM FINAL FORM hINITIAL FORM eMEEM INITIAL FORM fISOLATED FORM fWITH YEH FINAL FORM
    eYEH FINAL FORM fISOLATED FORM cGHAIN WITH ALEF MAKSURA FINAL FORM gISOLATED FORM eJEEM
    INITIAL FORM fISOLATED FORM eMEEM INITIAL FORM fISOLATED FORM fWITH ALEF MAKSURA FINAL FORM
    gMEEM FINAL FORM gYEH FINAL FORM eYEH FINAL FORM fISOLATED FORM cHAH WITH ALEF MAKSURA FINAL
    FORM gISOLATED FORM eJEEM INITIAL FORM fISOLATED FORM fWITH YEH FINAL FORM eMEEM INITIAL
    FORM fISOLATED FORM fWITH ALEF MAKSURA FINAL FORM gYEH FINAL FORM eYEH FINAL FORM fISOLATED
    FORM cHEH WITH ALEF MAKSURA ISOLATED FORM eJEEM INITIAL FORM fISOLATED FORM eMEEM INITIAL
    FORM fISOLATED FORM fWITH JEEM INITIAL FORM gMEEM INITIAL FORM eSUPERSCRIPT ALEF INITIAL
    FORM eYEH ISOLATED FORM cJALLAJALALOUHOU cJEEM WITH ALEF MAKSURA FINAL FORM gISOLATED FORM
    eHAH INITIAL FORM fISOLATED FORM fWITH ALEF MAKSURA FINAL FORM gYEH FINAL FORM eMEEM INITIAL
    FORM fISOLATED FORM fWITH ALEF MAKSURA FINAL FORM gHAH FINAL FORM hINITIAL FORM gYEH FINAL
    FORM eYEH FINAL FORM fISOLATED FORM cKAF WITH ALEF FINAL FORM fISOLATED FORM fMAKSURA FINAL
    FORM gISOLATED FORM eHAH INITIAL FORM fISOLATED FORM eJEEM INITIAL FORM fISOLATED FORM eKHAH
    INITIAL FORM fISOLATED FORM eLAM FINAL FORM fINITIAL FORM fISOLATED FORM fMEDIAL FORM eMEEM
    FINAL FORM fINITIAL FORM fISOLATED FORM fMEDIAL FORM fWITH MEEM FINAL FORM hINITIAL FORM
    gYEH FINAL FORM eYEH FINAL FORM fISOLATED FORM cKHAH WITH ALEF MAKSURA FINAL FORM gISOLATED
    FORM eHAH ISOLATED FORM eJEEM INITIAL FORM fISOLATED FORM eMEEM INITIAL FORM fISOLATED FORM
    eYEH FINAL FORM fISOLATED FORM cLAM WITH ALEF FINAL FORM fISOLATED FORM fMAKSURA FINAL FORM
    gISOLATED FORM fWITH HAMZA ABOVE FINAL FORM iISOLATED FORM hBELOW FINAL FORM iISOLATED FORM
    gMADDA ABOVE FINAL FORM iISOLATED FORM eHAH INITIAL FORM fISOLATED FORM fWITH ALEF MAKSURA
    FINAL FORM gMEEM FINAL FORM hINITIAL FORM gYEH FINAL FORM eHEH INITIAL FORM eJEEM INITIAL
    FORM fISOLATED FORM fWITH JEEM FINAL FORM hINITIAL FORM gMEEM FINAL FORM hINITIAL FORM gYEH
    FINAL FORM eKHAH INITIAL FORM fISOLATED FORM fWITH MEEM FINAL FORM hINITIAL FORM eMEEM FINAL
    FORM fINITIAL FORM fISOLATED FORM fMEDIAL FORM fWITH HAH FINAL FORM hINITIAL FORM gYEH FINAL
    FORM eYEH FINAL FORM fISOLATED FORM cMEEM WITH ALEF FINAL FORM fMAKSURA ISOLATED FORM eHAH
    INITIAL FORM fISOLATED FORM fWITH JEEM INITIAL FORM gMEEM INITIAL FORM gYEH FINAL FORM eJEEM
    INITIAL FORM fISOLATED FORM fWITH HAH INITIAL FORM gKHAH INITIAL FORM gMEEM INITIAL FORM
    gYEH FINAL FORM eKHAH INITIAL FORM fISOLATED FORM fWITH JEEM INITIAL FORM gMEEM INITIAL FORM
    gYEH FINAL FORM eMEEM FINAL FORM fINITIAL FORM fISOLATED FORM fWITH YEH FINAL FORM eYEH
    ISOLATED FORM cMOHAMMAD ISOLATED FORM cNOON WITH ALEF MAKSURA FINAL FORM gISOLATED FORM eHAH
    INITIAL FORM fISOLATED FORM fWITH ALEF MAKSURA FINAL FORM gMEEM INITIAL FORM gYEH FINAL FORM
    eHEH INITIAL FORM fMEDIAL FORM eJEEM INITIAL FORM fISOLATED FORM fWITH ALEF MAKSURA FINAL
    FORM gHAH FINAL FORM hINITIAL FORM gMEEM FINAL FORM hINITIAL FORM gYEH FINAL FORM eKHAH
    INITIAL FORM fISOLATED FORM eMEEM FINAL FORM fINITIAL FORM fISOLATED FORM fMEDIAL FORM fWITH
    ALEF MAKSURA FINAL FORM gYEH FINAL FORM eNOON FINAL FORM eREH FINAL FORM eYEH FINAL FORM
    fISOLATED FORM eZAIN FINAL FORM cQAF WITH ALEF MAKSURA FINAL FORM gISOLATED FORM eHAH
    INITIAL FORM fISOLATED FORM eMEEM INITIAL FORM fISOLATED FORM fWITH HAH FINAL FORM hINITIAL
    FORM gMEEM FINAL FORM gYEH FINAL FORM eYEH FINAL FORM fISOLATED FORM cQALA USED AS KORANIC
    STOP SIGN ISOLATED FORM cQUDDISA SIRRAH cRADI ALLAAHU ANH eANHAA eANHUM eANHUMAA eANHUNNA
    cRAHIMAHU ALLAAH cRAHIMAHUM ALLAAH cRASOUL ISOLATED FORM cREH WITH SUPERSCRIPT ALEF ISOLATED
    FORM cSAD WITH ALEF MAKSURA FINAL FORM gISOLATED FORM eHAH INITIAL FORM fISOLATED FORM fWITH
    HAH FINAL FORM hINITIAL FORM gYEH FINAL FORM eKHAH INITIAL FORM eMEEM INITIAL FORM fISOLATED
    FORM fWITH MEEM FINAL FORM hINITIAL FORM eREH FINAL FORM fISOLATED FORM eYEH FINAL FORM
    fISOLATED FORM cSALAAMUHU ALAYNAA cSALAM ISOLATED FORM cSALLA ISOLATED FORM dUSED AS KORANIC
    STOP SIGN ISOLATED FORM cSALLALLAAHU ALAYHI WA-AALIH cSALLALLAHOU ALAYHE WASALLAM
    cSALLALLAHU ALAYHI WAAALIHEE WA-SALLAM cSEEN WITH ALEF MAKSURA FINAL FORM gISOLATED FORM
    eHAH INITIAL FORM fISOLATED FORM fMEDIAL FORM fWITH JEEM INITIAL FORM eHEH INITIAL FORM
    fMEDIAL FORM eJEEM INITIAL FORM fISOLATED FORM fMEDIAL FORM fWITH ALEF MAKSURA FINAL FORM
    gHAH INITIAL FORM eKHAH INITIAL FORM fISOLATED FORM fMEDIAL FORM fWITH ALEF MAKSURA FINAL
    FORM gYEH FINAL FORM eMEEM INITIAL FORM fISOLATED FORM fMEDIAL FORM fWITH HAH FINAL FORM
    hINITIAL FORM gJEEM INITIAL FORM gMEEM FINAL FORM hINITIAL FORM eREH FINAL FORM fISOLATED
    FORM eYEH FINAL FORM fISOLATED FORM cSHADDA WITH DAMMA ISOLATED FORM fMEDIAL FORM eDAMMATAN
    ISOLATED FORM eFATHA ISOLATED FORM fMEDIAL FORM eKASRA ISOLATED FORM fMEDIAL FORM eKASRATAN
    ISOLATED FORM eSUPERSCRIPT ALEF ISOLATED FORM cSHEEN WITH ALEF MAKSURA FINAL FORM gISOLATED
    FORM eHAH FINAL FORM fINITIAL FORM fISOLATED FORM fMEDIAL FORM fWITH MEEM FINAL FORM
    hINITIAL FORM gYEH FINAL FORM eHEH INITIAL FORM fMEDIAL FORM eJEEM FINAL FORM fINITIAL FORM
    fISOLATED FORM fMEDIAL FORM fWITH YEH FINAL FORM eKHAH FINAL FORM fINITIAL FORM fISOLATED
    FORM fMEDIAL FORM eMEEM FINAL FORM fINITIAL FORM fISOLATED FORM fMEDIAL FORM fWITH KHAH
    FINAL FORM hINITIAL FORM gMEEM FINAL FORM hINITIAL FORM eREH FINAL FORM fISOLATED FORM eYEH
    FINAL FORM fISOLATED FORM cSUBHAANAHU WA TAAALAA cTABAARAKA WA-TAAALAA cTAH WITH ALEF
    MAKSURA FINAL FORM gISOLATED FORM eHAH INITIAL FORM fISOLATED FORM eMEEM INITIAL FORM
    fISOLATED FORM fMEDIAL FORM fWITH HAH FINAL FORM hINITIAL FORM gMEEM INITIAL FORM gYEH FINAL
    FORM eYEH FINAL FORM fISOLATED FORM cTEH WITH ALEF MAKSURA FINAL FORM gISOLATED FORM eHAH
    INITIAL FORM fISOLATED FORM fWITH JEEM FINAL FORM hINITIAL FORM gMEEM INITIAL FORM eHEH
    INITIAL FORM fMEDIAL FORM eJEEM INITIAL FORM fISOLATED FORM fWITH ALEF MAKSURA FINAL FORM
    gMEEM INITIAL FORM gYEH FINAL FORM eKHAH INITIAL FORM fISOLATED FORM fWITH ALEF MAKSURA
    FINAL FORM gMEEM INITIAL FORM gYEH FINAL FORM eMEEM FINAL FORM fINITIAL FORM fISOLATED FORM
    fMEDIAL FORM fWITH ALEF MAKSURA FINAL FORM gHAH INITIAL FORM gJEEM INITIAL FORM gKHAH
    INITIAL FORM gYEH FINAL FORM eNOON FINAL FORM eREH FINAL FORM eYEH FINAL FORM fISOLATED FORM
    eZAIN FINAL FORM cTHAL WITH SUPERSCRIPT ALEF ISOLATED FORM cTHEH WITH ALEF MAKSURA FINAL
    FORM gISOLATED FORM eHEH MEDIAL FORM eJEEM ISOLATED FORM eMEEM FINAL FORM fINITIAL FORM
    fISOLATED FORM fMEDIAL FORM eNOON FINAL FORM eREH FINAL FORM eYEH FINAL FORM fISOLATED FORM
    eZAIN FINAL FORM cUIGHUR KIRGHIZ YEH WITH HAMZA ABOVE WITH ALEF MAKSURA FINAL FORM lINITIAL
    FORM lISOLATED FORM cWASALLAM ISOLATED FORM cYEH WITH ALEF MAKSURA FINAL FORM gISOLATED FORM
    eHAH INITIAL FORM fISOLATED FORM fWITH YEH FINAL FORM eHAMZA ABOVE WITH AE FINAL FORM
    iISOLATED FORM hALEF FINAL FORM iISOLATED FORM iMAKSURA FINAL FORM jISOLATED FORM hE FINAL
    FORM iINITIAL FORM iISOLATED FORM hHAH INITIAL FORM iISOLATED FORM hHEH INITIAL FORM iMEDIAL
    FORM hJEEM INITIAL FORM iISOLATED FORM hKHAH INITIAL FORM hMEEM FINAL FORM iINITIAL FORM
    iISOLATED FORM iMEDIAL FORM hNOON FINAL FORM hOE FINAL FORM iISOLATED FORM hREH FINAL FORM
    hU FINAL FORM iISOLATED FORM hWAW FINAL FORM iISOLATED FORM hYEH FINAL FORM iISOLATED FORM
    hYU FINAL FORM iISOLATED FORM hZAIN FINAL FORM eHEH INITIAL FORM fMEDIAL FORM eJEEM INITIAL
    FORM fISOLATED FORM fWITH YEH FINAL FORM eKHAH INITIAL FORM fISOLATED FORM eMEEM FINAL FORM
    fINITIAL FORM fISOLATED FORM fMEDIAL FORM fWITH MEEM FINAL FORM hINITIAL FORM gYEH FINAL
    FORM eNOON FINAL FORM eREH FINAL FORM eYEH FINAL FORM fISOLATED FORM eZAIN FINAL FORM cZAH
    WITH MEEM INITIAL FORM fISOLATED FORM fMEDIAL FORM bMADDA WAAJIB bMADDAH ABOVE bMARK NOON
    GHUNNA cSIDEWAYS NOON GHUNNA bMATHEMATICAL AIN cALEF cBEH cDAD cDAL cDOTLESS BEH dFEH dNOON
    dQAF cDOUBLE-STRUCK AIN dBEH dDAD dDAL dFEH dGHAIN dHAH dJEEM dKHAH dLAM dMEEM dNOON dQAF
    dREH dSAD dSEEN dSHEEN dTAH dTEH dTHAL dTHEH dWAW dYEH dZAH dZAIN cFEH cGHAIN cHAH cINITIAL
    AIN dBEH dDAD dFEH dGHAIN dHAH dHEH dJEEM dKAF dKHAH dLAM dMEEM dNOON dQAF dSAD dSEEN dSHEEN
    dTEH dTHEH dYEH cJEEM cKAF cKHAH cLAM cLOOPED AIN dALEF dBEH dDAD dDAL dFEH dGHAIN dHAH dHEH
    dJEEM dKHAH dLAM dMEEM dNOON dQAF dREH dSAD dSEEN dSHEEN dTAH dTEH dTHAL dTHEH dWAW dYEH
    dZAH dZAIN cMEEM cNOON cOPERATOR HAH WITH DAL dMEEM WITH HAH WITH TATWEEL cQAF cREH cSAD
    cSEEN cSHEEN cSTRETCHED AIN dBEH dDAD dDOTLESS BEH eFEH dFEH dGHAIN dHAH dHEH dJEEM dKAF
    dKHAH dMEEM dNOON dQAF dSAD dSEEN dSHEEN dTAH dTEH dTHEH dYEH dZAH cTAH cTAILED AIN dDAD
    dDOTLESS NOON eQAF dGHAIN dHAH dJEEM dKHAH dLAM dNOON dQAF dSAD dSEEN dSHEEN dYEH cTEH cTHAL
    cTHEH cWAW cYEH cZAH cZAIN bNUMBER MARK ABOVE cSIGN bOPEN DAMMATAN cFATHATAN cKASRATAN
    bPERCENT SIGN bPIASTRE MARK ABOVE bPLACE OF SAJDAH bPOETIC VERSE SIGN bPOUND MARK ABOVE
    bQUESTION MARK bRAISED ROUND DOT bRAY bREVERSED DAMMA bRIGHT ARROWHEAD ABOVE eWITH DOT
    dBELOW bROUNDED HIGH STOP WITH FILLED CENTRE bSEMICOLON bSHADDA cISOLATED FORM cMEDIAL FORM
    bSIGN ALAYHE ASSALLAM cMISRA cRADI ALLAHOU ANHU cRAHMATULLAH ALAYHE cSAFHA cSALLALLAHOU
    ALAYHE WASSALLAM cSAMVAT cSANAH cSINDHI AMPERSAND dPOSTPOSITION MEN cTAKHALLUS bSMALL DAMMA
    cFARSI YEH cFATHA cHIGH AIN dDOTLESS HEAD OF KHAH dFARSI YEH dFOOTNOTE MARKER dJEEM dLAM
    ALEF dLIGATURE ALEF WITH LAM WITH YEH eQAF WITH LAM WITH ALEF MAKSURA eSAD WITH LAM WITH
    ALEF MAKSURA dMADDA dMEEM INITIAL FORM eISOLATED FORM dNOON eWITH KASRA dQAF dROUNDED ZERO
    dSAD dSEEN dSIGN SAFHA dTAH dTHREE DOTS dUPRIGHT RECTANGULAR ZERO dWAW dWORD AL-JUZ eAN-NISF
    eAR-RUB eAS-SAJDA eATH-THALATHA eQIF eSAH eSAKTA eWAQFA dYEH eBARREE WITH TWO DOTS BELOW
    dZAH dZAIN cKASRA cLOW MEEM dNOON WITH KASRA dSEEN dWAW dWORD IMAALA eISHMAAM eTASHEEL cWAW
    cYEH bSTART OF RUB EL HIZB bSUBSCRIPT ALEF bSUKUN cBELOW cISOLATED FORM cMEDIAL FORM
    bSUPERSCRIPT ALEF MOKHASSAS bSYMBOL DOT ABOVE dBELOW cDOUBLE VERTICAL BAR BELOW cFOUR DOTS
    ABOVE eBELOW cRING cSMALL TAH ABOVE eBELOW cTHREE DOTS ABOVE eBELOW ePOINTING DOWNWARDS
    ABOVE gBELOW cTWO DOTS ABOVE eBELOW eVERTICALLY ABOVE fBELOW cWASLA ABOVE bTAIL FRAGMENT
    bTATWEEL cWITH FATHATAN ABOVE dOVERSTRUCK HAMZA eWAW dTWO DOTS BELOW bTHOUSANDS SEPARATOR
    bTONE LOOP ABOVE dBELOW cONE DOT ABOVE eBELOW cTWO DOTS ABOVE eBELOW bTRIPLE DOT PUNCTUATION
    MARK bTURNED DAMMA BELOW bVERTICAL TAIL bVOWEL SIGN DOT BELOW dINVERTED SMALL V ABOVE dSMALL
    V ABOVE bWAVY HAMZA BELOW bZWARAKAY aARABIC-INDIC CUBE ROOT bDIGIT EIGHT cFIVE cFOUR cNINE
    cONE cSEVEN cSIX cTHREE cTWO cZERO bFOURTH ROOT bPER MILLE SIGN cTEN THOUSAND SIGN aARC
    aARIES aARMENIAN ABBREVIATION MARK bAPOSTROPHE bCAPITAL LETTER AYB dBEN dCA dCHA dCHEH dCO
    dDA dECH dEH dET dFEH dGHAD dGIM dHO dINI dJA dJHEH dKEH dKEN dLIWN dMEN dNOW dOH dPEH dPIWR
    dRA dREH dSEH dSHA dTIWN dTO dVEW dVO dXEH dYI dYIWN dZA dZHE bCOMMA bDRAM SIGN bEMPHASIS
    MARK bEXCLAMATION MARK bFULL STOP bHYPHEN bMODIFIER LETTER LEFT HALF RING bQUESTION MARK
    bSMALL LETTER AYB dBEN dCA dCHA dCHEH dCO dDA dECH dEH dET dFEH dGHAD dGIM dHO dINI dJA
    dJHEH dKEH dKEN dLIWN dMEN dNOW dOH dPEH dPIWR dRA dREH dSEH dSHA dTIWN dTO dTURNED AYB dVEW
    dVO dXEH dYI eWITH STROKE dYIWN dZA dZHE cLIGATURE ECH YIWN dMEN ECH eINI eNOW eXEH dVEW NOW
    aARROW POINTING DOWNWARDS THEN CURVING LEFTWARDS fRIGHTWARDS cRIGHTWARDS THEN CURVING
    DOWNWARDS fSOUTH WEST fUPWARDS cUPWARDS THEN NORTH WEST aARROWHEAD-SHAPED POINTER
    aARTICULATED LORRY aARTIST PALETTE aASCENDING NODE aASCIA SYMBOL aASSERTION aASTERISK
    bOPERATOR aASTERISM aASTONISHED FACE aASTRAEA aASTRONOMICAL SYMBOL FOR URANUS
    aASYMPTOTICALLY EQUAL TO aATHLETIC SHOE aATOM SYMBOL aAUBERGINE aAUSTRAL SIGN aAUTO RICKSHAW
    aAUTOMATED TELLER MACHINE aAUTOMOBILE aAVESTAN ABBREVIATION MARK bLETTER A cAA cAAN cAAO cAE
    cAEE cAN cAO cBE cBHE cCE cDE cDHE cE cEE cFE cGE cGGE cGHE cHE cHME cI cII cJE cKE cLE cME
    cNE cNGE cNGVE cNGYE cNNE cNYE cO cOO cPE cRE cSE cSHE cSHYE cSSHE cTE cTHE cTTE cU cUU cVE
    cXE cXVE cXYE cYE cYYE cZE cZHE aAVOCADO aAXE aBABY bANGEL bBOTTLE bCHICK bSYMBOL aBACK OF
    ENVELOPE bWITH LEFTWARDS ARROW ABOVE aBACK-TILTED SHADOWED WHITE RIGHTWARDS ARROW
    aBACKSLANTED SOUTH ARROW WITH HOOKED TAIL eHORIZONTAL TAIL aBACKSPACE aBACON aBACTRIAN CAMEL
    aBADGER aBADMINTON RACQUET AND SHUTTLECOCK aBAGEL aBAGGAGE CLAIM aBAGUETTE BREAD aBALINESE
    ADEG ADEG bCARIK PAMUNGKAH cPAREREN cSIKI bDIGIT EIGHT cFIVE cFOUR cNINE cONE cSEVEN cSIX
    cTHREE cTWO cZERO bLETTER AIKARA cAKARA dTEDUNG cARCHAIC JNYA cASYURA SASAK cBA dKEMBANG cCA
    dLACA cDA dMADU dMURDA ALPAPRANA eMAHAPRANA cEF SASAK cEKARA cGA dGORA cHA cIKARA dTEDUNG
    cJA dJERA cKA dMAHAPRANA cKAF SASAK cKHOT SASAK cLA dLENGA eTEDUNG cMA cNA dRAMBAT cNGA cNYA
    cOKARA dTEDUNG cPA dKAPAL cRA dREPA eTEDUNG cSA dSAGA dSAPA cTA dLATIK dMURDA MAHAPRANA
    dTAWA cTZIR SASAK cUKARA dTEDUNG cVE SASAK cWA cYA cZAL SASAK bMUSICAL SYMBOL COMBINING
    BENDE eENDEP eGONG eJEGOGAN eKEMPLI fWITH JEGOGAN eKEMPUL fWITH JEGOGAN eTEGEH dDAENG dDAING
    dDANG eGEDE eSURANG dDENG dDEUNG dDING dDONG dDUNG dLEFT-HAND CLOSED PLAK fPLUK eOPEN PANG
    fPING fPUNG dRIGHT-HAND CLOSED TAK fTUK eOPEN DAG fDUG bPAMADA cLANTANG bPAMENENG bPANTI
    cLANTANG bSIGN BISAH cCECEK cREREKAN cSURANG cULU CANDRA dRICEM bVOWEL SIGN LA LENGA fTEDUNG
    dPEPET eTEDUNG dRA REPA fTEDUNG dSUKU eILUT dTALING eREPA fTEDUNG eTEDUNG dTEDUNG dULU eSARI
    bWINDU aBALL OF YARN aBALLET SHOES aBALLOON aBALLOON-SPOKED ASTERISK aBALLOT BOLD SCRIPT X
    bBOX cWITH BALLOT dBOLD CHECK eSCRIPT X dCHECK dLIGHT X dSCRIPT X dX bSCRIPT X bX aBAMUM
    COLON bCOMBINING MARK KOQNDON dTUKWENTIS bCOMMA bFULL STOP bLETTER A cEE cFAAMAE cFEE cFOM
    cFU cI cKA cKEN cKET cKEUX cKI cKO cKOGHOM cKOVUU cKPA cKU cKYEE cLA cLEEEE cLI cLOQ cLU cM
    cMA cMBAA cMBEN cMEEEE cMEN cMI cMO cMU cNA cNDAA cNGA cNGGA cNGKWAEN cNI cNJAEM cNJEE
    cNJUAE cNSHA cNTEE cNTUU cNU cNUAE cNYI cO cPA cPEE cPEUX cPHASE-A FIRI dGBIEE FON
    dGHEUAEGHEUAE dGHEUAERAE dKAFA dKAQ dKET dKEUKEUTNDA dKPOQ dKUOQ dLAPAQ dLET KUT dLOMMAE dLU
    dLUAEP dMAEKEUP dMAEM dMAEMBGBIEE dMAEMKPEN dMAEMVEUX dMAENYI dMAESI dMANSUAE dMAP PIEET
    dMBANYI dMBAQ dMEUNJOMNDEUQ dMGBASA dMON NGGEUAET dMOOMEUT dMOOMPUQ dMVEUAENGAM dNAA MFON
    dNAQ dNDA LEERAEWA dNDAANGGEUAET dNEN dNGANGU dNGGEN dNGKUE MFON dNGKUENZEUM dNIKA dNJAM
    dNKAARAE dNKINDI dNSHA dNSHIEE dNTAP eMFAA eNTAA dNTOQPEN dNYET dNYI dNYIT MONGKEUAEQ dNZA
    MFON dNZUN MEUT dPA LEERAEWA dPAAM dPAARAE dPAMSHAE dPASHAE dPET dPON MFON PIPAEMBA
    fPIPAEMGBIEE ePA NJI PIPAEMBA gPIPAEMGBIEE dPUP dROM dSEUNYAM dSHINDA PA NJI dSHIRAE dSHOQ
    NSHUT YUM dSHUENSHUET dSHUM dSISA dSONJAM dSOQ dSOT dSUU dTEUAEN dTEUTEUWEN dTITA MFON dTU
    MAEMBA dTUAEP dU YUQ NAE dUNKNOWN dVEE cPHASE-B FEE dFEUX dGHEUGHEN dGHEUGHEUAEM dKAM
    dKEUAEM dKEUPUQ dKEUYEUX dKIEEM dKIQ dLAANAE dLAM NSHUT NYAM dLET dLOM NTEUM dMA eNJEUAENA
    eNJUQA dMBA MAELEE dMBAARAE dMBEURI dMBIT MBAAKET dMBUOQ dMEUQ dMEUT NGGEET dMFIYAQ dMFON
    TEUAEQ dMONTIEEN dNDU NJAA dNGGAAM dNGGEU MBU dNGGUOQ eLARGE dNGKINDI MVOP dNGOM dNSEN
    dNSHUET dNTIEE SHEUOQ dNYAEMAE dNYI NTEUM dPARUM dPEESHI dPIT dPUNGAAM dSAKEUAE dSET TU
    dSHET NJAQ dSHEUAEQTU dSIEE dSUE dTAAM dTU MAEMGBIEE eNSIEE dVEUM dWUAET dYAFU LEERAEWA
    dYEURAE cPHASE-C BUNG dFUE dGBAYI dGHAP dGHARAE dKAA dKEN FATIGUE eLAW dKET dKEUKAQ dKEUM
    dKEUSEUX dKEUSHEUAEP dKPARAQ dKUOP NKAARAE dKUT dLAM dLAP dLIQ dLU dMA KEUAERI eNSIEE
    dMAEMBA dMAESI dMBAA CABBAGE-TREE ePICKET dMBANYI dMBEEKEET dMBERAE dMBEUM dMBEUX dMBI
    dMBIRIEEN dMBIT dMBUAEM dMBUE dMGBASAQ dMIEE dMUAE dNANSANAQ dNAQ dNDAM dNDAP dNDEUAEREE
    dNDEUT dNDIDA dNDOMBU dNGAQ dNGGEN dNGGU dNGGUAEN NYAM dNGGUEET dNGGUM dNGGUON dNGKAQ dNGKUE
    MAEMBA dNGOM dNJAEM dNJAM dNJEEEE dNJEUX dNJUEQ dNSA dNSEUAEN dNSHAQ dNSOM dNSUN dNSUOT NGOM
    dNTAA dNTEN dNTEUNGBA dNTU MBIT dNYIR MKPARAQ MEUN dNZA dNZEUM dPEN dPIN dPIRIEEN dRU
    dSETFON dSEUX dSHIQ dSHUEQ dSUAET dTAASHAE dTET dTEUTEUX dTITA YUE dTITUAEP dVEUAEPEN dVEUX
    dWANGKUOQ dWUP dYAA dYEUQ dYU MUOMAE dYUM dYUWOQ cPHASE-D FAA dFEUFEUAET dGHAA dGHEUAE dKET
    dKEUAETMEUN dKEUM dKEUOT MBUAE dKEUP dKU dKUN dKUOM dKUQ dKWAET dKYEE dLEEEE dLET dLEUAEP
    dLEUM dLIEE dLOQ dLUM dM dMAENJET dMALEERI dMBAA eSEVEN dMBUO dMEEEE dMEUN dMEUT dMFEUAE
    dMFEUT dMFIEE dMFO dMFON dMGBEUN dMGBIEE dMGBOFUM dMONI dMU dMVOP dNDAM dNDEE dNDEUX dNDON
    dNGGAAM dNGGAAMAE dNGGAP dNGGEUX dNGGUOM dNGGWAEN dNGKAP dNGKEUAEQ dNGKEURI dNGKIEE dNGKUN
    dNGKYEE dNI dNJAP dNJEUAEM dNJEUT dNJI dNJIEE dNJUEQ dNSHEE dNSHUT dNSIEEP dNSIEET dNSUM
    dNTEE dNTEUM dNTUU dNU dNYAM dNYET dNYI dNYUE dPAP dPEE dPEUTAE dPIP dPUQ dPUUT dRAEM dREN
    MUCH eOLD dRII dSAP dSAQ dSEUAEQ dSHEE dSHEUAE dSHEUX dSHII dSHOQ dSHU dSOT dSUAE dSUE dSUU
    dTAE dTEEEE dTEUAEN dTEUN dTEUT dTI dTOQ dTU dTUOT dWAP dWUAEN dYAEMMAE dYEN dYUOM dYUOP
    dYUWOQ cPHASE-E A dFA dFAQ dFEE dFOM dFU CALL eI eREMEDY dFUE dFUET dGBET dGBEUX dGHAAMAE
    dGHET dGHEUAE dGHEUN dGHEUX dGHOM dI dKET dKEUAE dKEUX dKI dKO dKPEUX dKUET dKUOP dKUT dLAAM
    dLAP dLAQ dLEUAEM dLOM dLOON dLOOT dLOQ dLU dMA dMAE dMAEM dMAP dMAQ dMBEE dMBEUM dMEN
    dMFEUQ dMGBA dMGBEN dMI dMIEE dMON dMUAE dMVI dNA dNAE dNDAA MY HOUSE eSOFTNESS dNDAP dNDIAQ
    dNDIQ dNDUN dNGA dNGEUREUT dNGGEEEE dNGGEUAE dNGGEUAET dNGGUAESHAE NYAM dNGGUP dNGGURAE
    dNGKA dNGKAAMI dNGKEUAEM dNGKEUX dNGKUM dNGKUP dNGOP dNGOQ dNGUAE dNGUAET dNJAEMLI dNJEE
    eEPOCH dNJEUX dNKOM dNSHIEE dNSHUE dNSHUOP dNTAP dNTUM dNYI BETWEEN eCLEAVER dNZAQ dNZUQ dO
    dPA PEOPLE ePLURAL dPAA dPAAM dPEEM dPEUT dPEUX dPI dPIEEQ dPIET dPO dPOON dPU dPUAE dPUAQ
    dPUE dPUM dRAE dRAQ dREUX dRIMGBA dSAA dSEE dSET dSHEUAEQ dSHIQ dSHO dSHOQ dSOM dSUAEN dTAA
    dTAAQ dTAEN NTEUM dTAM dTAQ dTEN dTEU dTEUAEQ dTOO dTOON dTOQ dTUAE dTUM dTUMAE dVEE dVEUAE
    dVOM dWEUX dWUE dWUO dYAP dYEUAE dYEUAET dYEUM dYEUX dYIEE dYIT dYOQ COVER eSWIMMING dYUAEN
    dYUEQ dYUN dYUQ cPHASE-F EE dFOM dKA dKEN dKET dKO dKPA dKU dKYEE dLA dLI dLOQ dM dMA dMBAA
    dMBEN dMEEEE dMO dNDAA dNGGA dNGKWAEN dNI dNJAEM dNJUAE dNSHA dNTEE dNU dNUAE dNYI dPEE
    dPEUX dPUAE dREE dREN dREUX dRIEE dRII dRU dSAMBA dSEUX dSHII dSHO dSHU dSI dSUU dTAA dTAE
    dTET dU dVUEQ dWA dWUE dYA dYOQ cPI cPUAE cPUE cRAE cREE cREN cREUX cRIEE cRII cRU cSAMBA
    cSEUX cSHEUX cSHII cSHO cSHU cSI cSUU cTAA cTAE cTEN cTET cTI cU cWA cWUE cYA cYOQ cYUQ
    bNJAEMLI bQUESTION MARK bSEMICOLON aBANANA aBANJO aBANK aBANKNOTE WITH DOLLAR SIGN cEURO
    SIGN cPOUND SIGN cYEN SIGN aBAR CHART bOF SOAP aBARBER POLE aBASEBALL aBASKET aBASKETBALL
    AND HOOP aBASSA VAH COMBINING HIGH TONE dHIGH-LOW TONE dLOW TONE dLOW-MID TONE dMID TONE
    cFULL STOP cLETTER A dBA dCE dDHII dDO dE dEE dENNI dFA dGAH dGBU dHWAH dI dJO dKA dKPAH
    dMBE dO dOO dPA dSE dTO dU dUWU dVU dWA dWADDA dYEIN dYIE dZO aBAT aBATAK CONSONANT SIGN H
    dNG bLETTER A cBA cCA cDA cGA cHA cI cJA cKARO BA cLA cMA cMANDAILING HA dNA dSA cMBA cNA
    cNDA cNGA cNORTHERN TA cNYA cPA cPAKPAK WA cRA cSA cSIMALUNGUN A dGA dHA dLA dMA dPA dRA dSA
    dWA dYA cSOUTHERN TA cU cWA cYA bPANGOLAT bPANONGONAN bSIGN TOMPI bSYMBOL BINDU JUDUL dNA
    METEK dPANGOLAT dPINARBORAS bVOWEL SIGN E dEE dI dKARO I eO dO dPAKPAK E dU eFOR SIMALUNGUN
    SA aBATH aBATHTUB aBATTERY aBEACH WITH UMBRELLA aBEAMED ASCENDING MUSICAL NOTES bDESCENDING
    MUSICAL NOTES bEIGHTH NOTES bSIXTEENTH NOTES aBEANS aBEAR FACE aBEARDED PERSON aBEATING
    HEART aBEAVER aBECAUSE aBED aBEER MUG aBEETLE aBEL aBELL bPEPPER bSYMBOL bWITH CANCELLATION
    STROKE aBELLHOP BELL aBENGALI ABBREVIATION SIGN bANJI bAU LENGTH MARK bCURRENCY DENOMINATOR
    SIXTEEN cNUMERATOR FOUR dONE eLESS THAN THE DENOMINATOR dTHREE dTWO bDIGIT EIGHT cFIVE cFOUR
    cNINE cONE cSEVEN cSIX cTHREE cTWO cZERO bGANDA MARK bISSHAR bLETTER A cAA cAI cAU cBA cBHA
    cCA cCHA cDA cDDA cDDHA cDHA cE cGA cGHA cHA cI cII cJA cJHA cKA cKHA cKHANDA TA cLA cMA cNA
    cNGA cNNA cNYA cO cPA cPHA cRA dWITH LOWER DIAGONAL eMIDDLE DIAGONAL cRHA cRRA cSA cSHA cSSA
    cTA cTHA cTTA cTTHA cU cUU cVEDIC ANUSVARA cVOCALIC L dLL dR dRR cYA cYYA bRUPEE MARK cSIGN
    bSANDHI MARK bSIGN ANUSVARA cAVAGRAHA cCANDRABINDU cNUKTA cVIRAMA cVISARGA bVOWEL SIGN AA
    dAI dAU dE dI dII dO dU dUU dVOCALIC L eLL eR eRR aBENT ARROW POINTING DOWNWARDS THEN NORTH
    EAST aBENTO BOX aBENZENE RING cWITH CIRCLE aBET SYMBOL aBETWEEN aBEVERAGE BOX aBHAIKSUKI
    DANDA bDIGIT EIGHT cFIVE cFOUR cNINE cONE cSEVEN cSIX cTHREE cTWO cZERO bDOUBLE DANDA bGAP
    FILLER-1 cFILLER-2 bHUNDREDS UNIT MARK bLETTER A cAA cAI cAU cBA cBHA cCA cCHA cDA cDDA
    cDDHA cDHA cE cGA cGHA cHA cI cII cJA cJHA cKA cKHA cLA cMA cNA cNGA cNNA cNYA cO cPA cPHA
    cRA cSA cSHA cSSA cTA cTHA cTTA cTTHA cU cUU cVA cVOCALIC L dR dRR cYA bNUMBER EIGHT cEIGHTY
    cFIFTY cFIVE cFORTY cFOUR cNINE cNINETY cONE cSEVEN cSEVENTY cSIX cSIXTY cTEN cTHIRTY cTHREE
    cTWENTY cTWO bSIGN ANUSVARA cAVAGRAHA cCANDRABINDU cVIRAMA cVISARGA bVOWEL SIGN AA dAI dAU
    dE dI dII dO dU dUU dVOCALIC L eR eRR bWORD SEPARATOR aBICYCLE aBICYCLIST aBIG REVERSE
    SOLIDUS bSOLIDUS aBIKINI aBILLED CAP aBILLIARDS aBIOHAZARD SIGN aBIRD aBIRTHDAY CAKE aBISON
    aBITCOIN SIGN aBITING LIP aBLACK BOWTIE bCENTRE WHITE STAR bCHESS BISHOP dROTATED NINETY
    DEGREES eTWO HUNDRED SEVENTY DEGREES cEQUIHOPPER dROTATED NINETY DEGREES cKING dROTATED
    NINETY DEGREES eTWO HUNDRED SEVENTY DEGREES cKNIGHT dROTATED FORTY-FIVE DEGREES eNINETY
    DEGREES eONE HUNDRED THIRTY-FIVE DEGREES eTHREE HUNDRED FIFTEEN DEGREES eTWO HUNDRED SEVENTY
    DEGREES gTWENTY-FIVE DEGREES cKNIGHT-BISHOP cKNIGHT-QUEEN cKNIGHT-ROOK cPAWN dROTATED NINETY
    DEGREES eTWO HUNDRED SEVENTY DEGREES cQUEEN dROTATED NINETY DEGREES eTWO HUNDRED SEVENTY
    DEGREES cROOK dROTATED NINETY DEGREES eTWO HUNDRED SEVENTY DEGREES cTURNED BISHOP dKING
    dKNIGHT dPAWN dQUEEN dROOK bCIRCLE cFOR RECORD cWITH DOWN ARROW dTWO WHITE DOTS dWHITE DOT
    RIGHT bCLUB SUIT bCROSS ON SHIELD bCURVED DOWNWARDS AND LEFTWARDS ARROW eRIGHTWARDS ARROW
    cLEFTWARDS AND DOWNWARDS ARROW eUPWARDS ARROW cRIGHTWARDS AND DOWNWARDS ARROW eUPWARDS ARROW
    cUPWARDS AND LEFTWARDS ARROW eRIGHTWARDS ARROW bDIAMOND cCENTRED cMINUS WHITE X cON CROSS
    cSUIT cWITH DOWN ARROW bDOWN POINTING BACKHAND INDEX bDOWN-POINTING DOUBLE TRIANGLE
    cISOSCELES RIGHT TRIANGLE cSMALL TRIANGLE cTRIANGLE bDOWNWARDS EQUILATERAL ARROWHEAD
    bDRAUGHTS KING cMAN bDROPLET bFLAG bFLORETTE bFOLDER bFOUR POINTED STAR bHARD SHELL FLOPPY
    DISK bHEART cSUIT bHEXAGON bHORIZONTAL ELLIPSE bHOURGLASS bLARGE CIRCLE cSQUARE bLEFT LANE
    MERGE cPOINTING BACKHAND INDEX dINDEX bLEFT-POINTING DOUBLE TRIANGLE eWITH VERTICAL BAR
    cISOSCELES RIGHT TRIANGLE cPOINTER cSMALL TRIANGLE cTRIANGLE bLEFTWARDS BULLET cEQUILATERAL
    ARROWHEAD bLOWER LEFT TRIANGLE cRIGHT TRIANGLE bLOZENGE bMEDIUM DIAMOND cDOWN-POINTING
    TRIANGLE eCENTRED cLEFT-POINTING TRIANGLE eCENTRED cLOZENGE cRIGHT-POINTING TRIANGLE
    eCENTRED cSMALL DIAMOND dLOZENGE dSQUARE cSQUARE cUP-POINTING TRIANGLE eCENTRED bMOON LILITH
    bNIB bOCTAGON bPARALLELOGRAM bPENNANT bPENTAGON bPUSHPIN bQUESTION MARK ORNAMENT bRECTANGLE
    bRIGHT POINTING BACKHAND INDEX dINDEX bRIGHT-POINTING DOUBLE TRIANGLE eWITH VERTICAL BAR
    cISOSCELES RIGHT TRIANGLE cPENTAGON cPOINTER cSMALL TRIANGLE cTRIANGLE dWITH DOUBLE VERTICAL
    BAR bRIGHTWARDS ARROW cARROWHEAD cBULLET cEQUILATERAL ARROWHEAD bROSETTE bSAFETY SCISSORS
    bSCISSORS bSHOGI PIECE bSKULL AND CROSSBONES bSLIGHTLY SMALL CIRCLE dSQUARE bSMALL DIAMOND
    cLOZENGE cSQUARE cSTAR bSMILING FACE bSNOWMAN bSPADE SUIT bSQUARE cBUTTON cCENTRED cFOR STOP
    bSTAR bSUN WITH RAYS bTELEPHONE bTINY DIAMOND cLOZENGE cSQUARE bTOUCHTONE TELEPHONE bTRUCK
    bTWO-WAY LEFT WAY TRAFFIC bUNIVERSAL RECYCLING SYMBOL bUP POINTING BACKHAND INDEX
    bUP-POINTING DOUBLE TRIANGLE cISOSCELES RIGHT TRIANGLE cSMALL TRIANGLE cTRIANGLE bUPPER LEFT
    TRIANGLE cRIGHT TRIANGLE bUPWARDS EQUILATERAL ARROWHEAD bVERTICAL ELLIPSE cRECTANGLE bVERY
    SMALL DIAMOND dLOZENGE dSQUARE aBLACK-FEATHERED NORTH EAST ARROW bRIGHTWARDS ARROW bSOUTH
    EAST ARROW aBLACK-LETTER CAPITAL C cH cI cR cZ aBLANK SYMBOL aBLOCK SEXTANT-1 bSEXTANT-12
    bSEXTANT-123 bSEXTANT-1234 bSEXTANT-12345 bSEXTANT-12346 bSEXTANT-1235 bSEXTANT-12356
    bSEXTANT-1236 bSEXTANT-124 bSEXTANT-1245 bSEXTANT-12456 bSEXTANT-1246 bSEXTANT-125
    bSEXTANT-1256 bSEXTANT-126 bSEXTANT-13 bSEXTANT-134 bSEXTANT-1345 bSEXTANT-13456
    bSEXTANT-1346 bSEXTANT-1356 bSEXTANT-136 bSEXTANT-14 bSEXTANT-145 bSEXTANT-1456 bSEXTANT-146
    bSEXTANT-15 bSEXTANT-156 bSEXTANT-16 bSEXTANT-2 bSEXTANT-23 bSEXTANT-234 bSEXTANT-2345
    bSEXTANT-23456 bSEXTANT-2346 bSEXTANT-235 bSEXTANT-2356 bSEXTANT-236 bSEXTANT-24
    bSEXTANT-245 bSEXTANT-2456 bSEXTANT-25 bSEXTANT-256 bSEXTANT-26 bSEXTANT-3 bSEXTANT-34
    bSEXTANT-345 bSEXTANT-3456 bSEXTANT-346 bSEXTANT-35 bSEXTANT-356 bSEXTANT-36 bSEXTANT-4
    bSEXTANT-45 bSEXTANT-456 bSEXTANT-46 bSEXTANT-5 bSEXTANT-56 bSEXTANT-6 aBLOSSOM aBLOWFISH
    aBLUE BOOK bHEART aBLUEBERRIES aBOAR aBOLD EIGHT SPOKED ASTERISK bFIVE SPOKED ASTERISK
    bGREEK CROSS bSALTIRE bSIX SPOKED ASTERISK bWHITE CIRCLE cSQUARE aBOM aBOMB aBONE aBOOK
    aBOOKMARK bTABS aBOOKS aBOOMERANG aBOPOMOFO FINAL LETTER G dH dK dP dT bLETTER A cAH cAI
    cAINN cAM cAN cANG cANN cAU cAUNN cB cBU cC cCH cD cE cEE cEH cEI cEN cENG cENN cER cF cG
    cGH cGN cGU cGW cH cI cIH cIM cINN cINNN cIR cIU cJ cJI cK cKW cL cLH cM cN cNG cNGG cNN cO
    dWITH DOT ABOVE cOE cOM cONG cONN cOO cOU cP cQ cR cS cSH cT cU cUNN cV cX cZ cZH cZI cZY
    aBOTTLE WITH POPPING CORK aBOTTOM ARC ANTICLOCKWISE ARROW bCURLY BRACKET bHALF BLACK CIRCLE
    cINTEGRAL cLEFT PARENTHESIS cRIGHT PARENTHESIS bLEFT CORNER cCROP cHALF BRACKET bPARENTHESIS
    bRIGHT CORNER cCROP cHALF BRACKET bSQUARE BRACKET dOVER TOP SQUARE BRACKET bTORTOISE SHELL
    BRACKET aBOUQUET bOF FLOWERS aBOW AND ARROW aBOWL OF HYGIEIA bWITH SPOON aBOWLING aBOWTIE
    bWITH LEFT HALF BLACK cRIGHT HALF BLACK aBOX DRAWINGS DOUBLE DOWN AND HORIZONTAL fLEFT
    fRIGHT dHORIZONTAL dUP AND HORIZONTAL fLEFT fRIGHT dVERTICAL eAND HORIZONTAL fLEFT fRIGHT
    cDOWN DOUBLE AND HORIZONTAL SINGLE fLEFT SINGLE fRIGHT SINGLE dHEAVY AND HORIZONTAL LIGHT
    fLEFT LIGHT gUP LIGHT fRIGHT LIGHT gUP LIGHT fUP HORIZONTAL LIGHT dLIGHT AND HORIZONTAL
    HEAVY fLEFT HEAVY gUP HEAVY fRIGHT HEAVY gUP HEAVY fUP HORIZONTAL HEAVY dSINGLE AND
    HORIZONTAL DOUBLE fLEFT DOUBLE fRIGHT DOUBLE cHEAVY DOUBLE DASH HORIZONTAL fVERTICAL dDOWN
    eAND HORIZONTAL fLEFT fRIGHT dHORIZONTAL dLEFT eAND LIGHT RIGHT dQUADRUPLE DASH HORIZONTAL
    fVERTICAL dRIGHT dTRIPLE DASH HORIZONTAL fVERTICAL dUP eAND HORIZONTAL fLEFT fLIGHT DOWN
    fRIGHT dVERTICAL eAND HORIZONTAL fLEFT fRIGHT cLEFT DOWN HEAVY AND RIGHT UP LIGHT dHEAVY AND
    RIGHT DOWN LIGHT gUP LIGHT gVERTICAL LIGHT dLIGHT AND RIGHT DOWN HEAVY gUP HEAVY gVERTICAL
    HEAVY dUP HEAVY AND RIGHT DOWN LIGHT cLIGHT ARC DOWN AND LEFT gRIGHT eUP AND LEFT gRIGHT
    dDIAGONAL CROSS eDIAMOND eMIDDLE LEFT TO LOWER CENTRE jTO MIDDLE RIGHT hUPPER CENTRE TO
    MIDDLE RIGHT mTO LOWER CENTRE fRIGHT TO LOWER CENTRE hUPPER CENTRE TO MIDDLE LEFT TO LOWER
    CENTRE eUPPER CENTRE TO MIDDLE LEFT jAND MIDDLE RIGHT TO LOWER CENTRE jTO LOWER CENTRE mTO
    MIDDLE RIGHT iRIGHT jAND MIDDLE LEFT TO LOWER CENTRE jTO LOWER CENTRE mTO MIDDLE LEFT fLEFT
    TO LOWER RIGHT fRIGHT TO LOWER LEFT dDOUBLE DASH HORIZONTAL fVERTICAL dDOWN eAND HORIZONTAL
    fLEFT fRIGHT dHORIZONTAL eWITH VERTICAL STROKE dLEFT eAND HEAVY RIGHT dQUADRUPLE DASH
    HORIZONTAL fVERTICAL dRIGHT dTRIPLE DASH HORIZONTAL fVERTICAL dUP eAND HEAVY DOWN
    fHORIZONTAL fLEFT fRIGHT dVERTICAL eAND HORIZONTAL fLEFT fRIGHT cRIGHT DOWN HEAVY AND LEFT
    UP LIGHT dHEAVY AND LEFT DOWN LIGHT gUP LIGHT gVERTICAL LIGHT dLIGHT AND LEFT DOWN HEAVY gUP
    HEAVY gVERTICAL HEAVY dUP HEAVY AND LEFT DOWN LIGHT cUP DOUBLE AND HORIZONTAL SINGLE fLEFT
    SINGLE fRIGHT SINGLE dHEAVY AND DOWN HORIZONTAL LIGHT fHORIZONTAL LIGHT fLEFT DOWN LIGHT
    gLIGHT fRIGHT DOWN LIGHT gLIGHT dLIGHT AND DOWN HORIZONTAL HEAVY fHORIZONTAL HEAVY fLEFT
    DOWN HEAVY gHEAVY fRIGHT DOWN HEAVY gHEAVY dSINGLE AND HORIZONTAL DOUBLE fLEFT DOUBLE fRIGHT
    DOUBLE cVERTICAL DOUBLE AND HORIZONTAL SINGLE fLEFT SINGLE fRIGHT SINGLE dHEAVY AND
    HORIZONTAL LIGHT fLEFT LIGHT fRIGHT LIGHT dLIGHT AND HORIZONTAL HEAVY fLEFT HEAVY fRIGHT
    HEAVY dSINGLE AND HORIZONTAL DOUBLE fLEFT DOUBLE fRIGHT DOUBLE aBOXING GLOVE aBOY aBOYS
    SYMBOL aBPH aBRAHMI DANDA bDIGIT EIGHT cFIVE cFOUR cNINE cONE cSEVEN cSIX cTHREE cTWO cZERO
    bDOUBLE DANDA bLETTER A cAA cAI cAU cBA cBHA cCA cCHA cDA cDDA cDDHA cDHA cE cGA cGHA cHA cI
    cII cJA cJHA cKA cKHA cLA cLLA cMA cNA cNGA cNNA cNYA cO cOLD TAMIL LLA eLLLA eNNNA eRRA
    eSHORT E fO cPA cPHA cRA cSA cSHA cSSA cTA cTHA cTTA cTTHA cU cUU cVA cVOCALIC L dLL dR dRR
    cYA bNUMBER EIGHT cEIGHTY cFIFTY cFIVE cFORTY cFOUR cJOINER cNINE cNINETY cONE dHUNDRED
    dTHOUSAND cSEVEN cSEVENTY cSIX cSIXTY cTEN cTHIRTY cTHREE cTWENTY cTWO bPUNCTUATION CRESCENT
    BAR cDOT cDOUBLE DOT cLINE cLOTUS bSIGN ANUSVARA cCANDRABINDU cJIHVAMULIYA cOLD TAMIL VIRAMA
    cUPADHMANIYA cVISARGA bVIRAMA bVOWEL SIGN AA dAI dAU dBHATTIPROLU AA dE dI dII dO dOLD TAMIL
    SHORT E gO dU dUU dVOCALIC L eLL eR eRR aBRAILLE PATTERN BLANK cDOTS-1 cDOTS-12 cDOTS-123
    cDOTS-1234 cDOTS-12345 cDOTS-123456 cDOTS-1234567 cDOTS-12345678 cDOTS-1234568 cDOTS-123457
    cDOTS-1234578 cDOTS-123458 cDOTS-12346 cDOTS-123467 cDOTS-1234678 cDOTS-123468 cDOTS-12347
    cDOTS-123478 cDOTS-12348 cDOTS-1235 cDOTS-12356 cDOTS-123567 cDOTS-1235678 cDOTS-123568
    cDOTS-12357 cDOTS-123578 cDOTS-12358 cDOTS-1236 cDOTS-12367 cDOTS-123678 cDOTS-12368
    cDOTS-1237 cDOTS-12378 cDOTS-1238 cDOTS-124 cDOTS-1245 cDOTS-12456 cDOTS-124567
    cDOTS-1245678 cDOTS-124568 cDOTS-12457 cDOTS-124578 cDOTS-12458 cDOTS-1246 cDOTS-12467
    cDOTS-124678 cDOTS-12468 cDOTS-1247 cDOTS-12478 cDOTS-1248 cDOTS-125 cDOTS-1256 cDOTS-12567
    cDOTS-125678 cDOTS-12568 cDOTS-1257 cDOTS-12578 cDOTS-1258 cDOTS-126 cDOTS-1267 cDOTS-12678
    cDOTS-1268 cDOTS-127 cDOTS-1278 cDOTS-128 cDOTS-13 cDOTS-134 cDOTS-1345 cDOTS-13456
    cDOTS-134567 cDOTS-1345678 cDOTS-134568 cDOTS-13457 cDOTS-134578 cDOTS-13458 cDOTS-1346
    cDOTS-13467 cDOTS-134678 cDOTS-13468 cDOTS-1347 cDOTS-13478 cDOTS-1348 cDOTS-135 cDOTS-1356
    cDOTS-13567 cDOTS-135678 cDOTS-13568 cDOTS-1357 cDOTS-13578 cDOTS-1358 cDOTS-136 cDOTS-1367
    cDOTS-13678 cDOTS-1368 cDOTS-137 cDOTS-1378 cDOTS-138 cDOTS-14 cDOTS-145 cDOTS-1456
    cDOTS-14567 cDOTS-145678 cDOTS-14568 cDOTS-1457 cDOTS-14578 cDOTS-1458 cDOTS-146 cDOTS-1467
    cDOTS-14678 cDOTS-1468 cDOTS-147 cDOTS-1478 cDOTS-148 cDOTS-15 cDOTS-156 cDOTS-1567
    cDOTS-15678 cDOTS-1568 cDOTS-157 cDOTS-1578 cDOTS-158 cDOTS-16 cDOTS-167 cDOTS-1678
    cDOTS-168 cDOTS-17 cDOTS-178 cDOTS-18 cDOTS-2 cDOTS-23 cDOTS-234 cDOTS-2345 cDOTS-23456
    cDOTS-234567 cDOTS-2345678 cDOTS-234568 cDOTS-23457 cDOTS-234578 cDOTS-23458 cDOTS-2346
    cDOTS-23467 cDOTS-234678 cDOTS-23468 cDOTS-2347 cDOTS-23478 cDOTS-2348 cDOTS-235 cDOTS-2356
    cDOTS-23567 cDOTS-235678 cDOTS-23568 cDOTS-2357 cDOTS-23578 cDOTS-2358 cDOTS-236 cDOTS-2367
    cDOTS-23678 cDOTS-2368 cDOTS-237 cDOTS-2378 cDOTS-238 cDOTS-24 cDOTS-245 cDOTS-2456
    cDOTS-24567 cDOTS-245678 cDOTS-24568 cDOTS-2457 cDOTS-24578 cDOTS-2458 cDOTS-246 cDOTS-2467
    cDOTS-24678 cDOTS-2468 cDOTS-247 cDOTS-2478 cDOTS-248 cDOTS-25 cDOTS-256 cDOTS-2567
    cDOTS-25678 cDOTS-2568 cDOTS-257 cDOTS-2578 cDOTS-258 cDOTS-26 cDOTS-267 cDOTS-2678
    cDOTS-268 cDOTS-27 cDOTS-278 cDOTS-28 cDOTS-3 cDOTS-34 cDOTS-345 cDOTS-3456 cDOTS-34567
    cDOTS-345678 cDOTS-34568 cDOTS-3457 cDOTS-34578 cDOTS-3458 cDOTS-346 cDOTS-3467 cDOTS-34678
    cDOTS-3468 cDOTS-347 cDOTS-3478 cDOTS-348 cDOTS-35 cDOTS-356 cDOTS-3567 cDOTS-35678
    cDOTS-3568 cDOTS-357 cDOTS-3578 cDOTS-358 cDOTS-36 cDOTS-367 cDOTS-3678 cDOTS-368 cDOTS-37
    cDOTS-378 cDOTS-38 cDOTS-4 cDOTS-45 cDOTS-456 cDOTS-4567 cDOTS-45678 cDOTS-4568 cDOTS-457
    cDOTS-4578 cDOTS-458 cDOTS-46 cDOTS-467 cDOTS-4678 cDOTS-468 cDOTS-47 cDOTS-478 cDOTS-48
    cDOTS-5 cDOTS-56 cDOTS-567 cDOTS-5678 cDOTS-568 cDOTS-57 cDOTS-578 cDOTS-58 cDOTS-6 cDOTS-67
    cDOTS-678 cDOTS-68 cDOTS-7 cDOTS-78 cDOTS-8 aBRAIN aBREAD aBREAK PERMITTED HERE
    aBREAST-FEEDING aBREVE aBRICK aBRIDE WITH VEIL aBRIDGE AT NIGHT aBRIEFCASE aBRIEFS aBROCCOLI
    aBROKEN BAR bCIRCLE WITH NORTHWEST ARROW bHEART aBROOM aBROWN HEART aBS aBUBBLE TEA aBUBBLES
    aBUCKET aBUG aBUGINESE END OF SECTION bLETTER A cBA cCA cDA cGA cHA cJA cKA cLA cMA cMPA cNA
    cNGA cNGKA cNRA cNYA cNYCA cPA cRA cSA cTA cVA cYA bPALLAWA bVOWEL SIGN AE dE dI dO dU
    aBUHID LETTER A cBA cDA cGA cHA cI cKA cLA cMA cNA cNGA cPA cRA cSA cTA cU cWA cYA bVOWEL
    SIGN I dU aBUILDING CONSTRUCTION aBULLET bOPERATOR aBULLHORN bWITH SOUND WAVES aBULLSEYE
    aBURRITO aBUS bSTOP aBUST IN SILHOUETTE aBUSTS IN SILHOUETTE aBUTTER aBUTTERFLY aBYTE ORDER
    MARK aBYZANTINE MUSICAL SYMBOL AGOGI ARGI eARGOTERI eGORGI eGORGOTERI eMESI eMETRIA ePOLI
    ARGI fGORGI dANATRICHISMA dANTIKENOKYLISMA dANTIKENOMA dAPESO EKFONITIKON eEXO NEO dAPLI
    dAPODERMA ARCHAION eNEO dAPOSTROFOI SYNDESMOS NEO eTELOUS ICHIMATOS dAPOSTROFOS eDIPLI eNEO
    dAPOTHEMA dARGON dARGOSYNTHETON dARKTIKO DI eGA eKE eNI ePA eVOU eZO dCHAMILI dCHAMILON
    dCHOREVMA ARCHAION eNEO dCHROA KLITON eSPATHI eZYGOS dDASEIA dDIARGON dDIASTOLI APLI MEGALI
    fMIKRI eDIPLI eTHESEOS dDIESIS APLI DYO DODEKATA eDIGRAMMOS EX DODEKATA eMONOGRAMMOS TESSERA
    DODEKATA eTETARTIMORION eTRIGRAMMOS OKTO DODEKATA eTRITIMORION dDIFTOGGOS OU dDIGORGON
    ePARESTIGMENON ARISTERA ANO gKATO fDEXIA dDIGRAMMA GG dDIPLI eARCHAION dDYO dEKSTREPTON
    dELAFRON dENARXIS KAI FTHORA VOU dENDOFONON dEPEGERMA dETERON ARGOSYNTHETON ePARAKALESMA
    dEXO EKFONITIKON dFANEROSIS DIFONIAS eMONOFONIAS eTETRAFONIAS dFHTORA SKLIRON CHROMA VASIS
    dFTHORA ARCHAION fDEYTEROU ICHOU eDIATONIKI DI fKE fNANA fNI ANO gKATO fPA fZO eENARMONIOS
    ANTIFONIA eI YFESIS TETARTIMORION eMALAKON CHROMA DIFONIAS gMONOFONIAS eNAOS ICHOS eNENANO
    eSKLIRON CHROMA SYNAFI gVASIS fDIATONON DI dGENIKI DIESIS eYFESIS dGORGON ARCHAION eNEO ANO
    fKATO ePARESTIGMENON ARISTERA fDEXIA dGORGOSYNTHETON dGORTHMIKON N APLOUN fDIPLOUN
    dGRONTHISMATA dICHADIN dIMIDIARGON dIMIFONON dIMIFTHORA dIMIFTHORON dISAKIA TELOUS ICHIMATOS
    dISON ARCHAION eNEO dKATAVA TROMIKON dKATAVASMA dKATHISTI dKENTIMA ARCHAION eNEO ANO fKATO
    fMESO dKENTIMATA eARCHAION eNEO ANO fKATO fMESO dKLASMA eANO eKATO dKONTEVMA eALLO dKORONIS
    dKOUFISMA dKRATIMA ALLO eARCHAION eNEO dKRATIMATA dKRATIMOKOUFISMA dKRATIMOYPORROON
    dKREMASTI dKYLISMA dLEIMMA DYO CHRONON eENOS CHRONOU eIMISEOS CHRONOU eTESSARON CHRONON
    eTRION CHRONON dLEMOI dLYGISMA dMARTYRIA ALLI DEYTEROS ICHOS fPROTOS ICHOS eDEYTEROS ICHOS
    eLEGETOS ICHOS ePLAGIOS ICHOS fTETARTOS ICHOS ePROTOS ICHOS ePROTOVARYS ICHOS eTETARTOS
    ICHOS fLEGETOS ICHOS eTRIFONIAS eTRITOS ICHOS eVARYS ICHOS dMIKRON ISON dNANA dOLIGON
    ARCHAION eNEO dOMALON dOXEIA DIPLI eEKFONITIKON eNEO dOXEIAI ARCHAION dOYRANISMA ARCHAION
    eNEO dPARAKALESMA ARCHAION eNEO dPARAKLITIKI eARCHAION eNEO dPARICHON dPELASTON eNEO
    dPERISPOMENI dPETASMA dPETASTI dPETASTOKOUFISMA dPIASMA ARCHAION eNEO dPSIFISTOLYGISMA
    dPSIFISTON eNEO dPSIFISTOPARAKALESMA dPSIFISTOSYNAGMA dPSILI dPSILON dRAPISMA dREVMA
    dSAXIMATA dSEISMA eNEO dSIMANSIS ARSEOS fDISIMOU fTETRASIMOU fTRISIMOU eTHESEOS fDISIMOU
    fTETRASIMOU fTRISIMOU dSTAVROS eAPODEXIA dSTIGMA dSTRAGGISMATA dSYNAGMA ARCHAION eMETA
    STAVROU eNEO dSYNEVMA dSYRMA dSYRMATIKI dTELEIA dTESSERA dTETRAPLI dTHEMA eAPLOUN
    dTHEMATISMOS ESO eEXO dTHES KAI APOTHES dTHITA dTINAGMA dTRIA dTRIGORGON dTRIPLI
    dTROMIKOLYGISMA dTROMIKON ALLO eARCHAION eNEO dTROMIKOPARAKALESMA dTROMIKOPSIFISTON
    dTROMIKOSYNAGMA dVAREIA DIPLI eEKFONITIKON eNEO dVAREIAI ARCHAION dVATHY dXIRON KLASMA dYFEN
    ANO eKATO dYFESIS APLI DYO DODEKATA eDIGRAMMOS EX DODEKATA eMONOGRAMMOS TESSERA DODEKATA
    eTRIGRAMMOS OKTO DODEKATA eTRITIMORION dYPOKRISIS eDIPLI dYPORROI dYPSILI"

end SecurityRules.CharacterName
